import Omq.Tokio.FanOut.Decodable

/-!
# From the socket to the lanes

A fan-out socket pushes a message into the ring of its first lane.  The worker of that lane takes a
batch, copies it into the ring of every other lane which has peers, and then serves its own peers;
the other workers serve theirs.  Commands about peers go to the lane of the peer through a ring of
its own.
-/

namespace Omq

open Function List PeerTransmitSlot

/-! ## The model -/

/-- What the socket tells a lane about a peer. -/
inductive PeerNotice
  | add (anyGroups : Bool)
  | remove
  | subscribe (topic : Bytes)
  | cancel (topic : Bytes)
  | join (group : Bytes)
  | leave (group : Bytes)

def PeerNotice.isAdd : PeerNotice → Bool
  | .add _ => true
  | _ => false

def PeerNotice.isRemove : PeerNotice → Bool
  | .remove => true
  | _ => false

def PeerNotice.control {Peer : Type*} (peer : Peer) : PeerNotice → LaneControl Peer
  | .add anyGroups => .addPeer peer anyGroups
  | .remove => .removePeer peer
  | .subscribe topic => .subscribe peer topic
  | .cancel topic => .cancel peer topic
  | .join group => .join peer group
  | .leave group => .leave peer group

structure FanOutLane (Peer : Type*) where
  worker : LaneWorker Peer
  ctrl : List (Peer × PeerNotice)
  data : List LaneDispatch
  /-- Messages which the worker took out of the ring and has not begun. -/
  batch : List LaneDispatch
  peerCount : Nat
  /-- The messages begun so far, with the peers of the worker at that time. -/
  log : List (LaneDispatch × List (Peer × LanePeer))

/-- A peer which a lane serves. -/
structure Registration (Peer : Type*) where
  peer : Peer
  lane : Nat
  /-- How many messages had been dispatched when the peer was added. -/
  since : Nat

structure FanOutLanes (Peer : Type*) where
  mode : FanOutMode
  laneCount : Nat
  pipeCap : Nat
  lanes : Nat → FanOutLane Peer
  registered : List (Registration Peer)
  /-- Every peer so far; an id is never used again. -/
  joined : List Peer
  /-- What the first worker has yet to copy of its batch, lane by lane. -/
  copies : List (Nat × List LaneDispatch)
  /-- The first of these lanes was found active. -/
  copying : Bool
  /-- The messages which the ring of the first lane took so far. -/
  dispatched : List LaneDispatch

def laneCtrlRingCap : Nat := 64

namespace FanOutLane

variable {Peer : Type*}

def tell (lane : FanOutLane Peer) (peer : Peer) (notice : PeerNotice) : FanOutLane Peer :=
  { lane with
    ctrl := lane.ctrl ++ [(peer, notice)]
    peerCount := match notice with
      | .add _ => lane.peerCount + 1
      | .remove => lane.peerCount - 1
      | _ => lane.peerCount }

def new (mode : FanOutMode) (mutePolicy : FanOutMutePolicy) (setups : Peer → LaneWorker.SlotSetup) :
    FanOutLane Peer where
  worker := ⟨mode, mutePolicy, [], 0, none, [], none, false,
    fun peer => (setups peer).slot, fun _ => []⟩
  ctrl := []
  data := []
  batch := []
  peerCount := 0
  log := []

end FanOutLane

namespace FanOutLanes

variable {Peer : Type*}

def start (mode : FanOutMode) (mutePolicy : FanOutMutePolicy) (laneCount pipeCap : Nat)
    (setups : Peer → LaneWorker.SlotSetup) : FanOutLanes Peer :=
  ⟨mode, laneCount, pipeCap, fun _ => .new mode mutePolicy setups, [], [], [], false, []⟩

def modifyLane (pipe : FanOutLanes Peer) (index : Nat)
    (change : FanOutLane Peer → FanOutLane Peer) : FanOutLanes Peer :=
  { pipe with lanes := update pipe.lanes index (change (pipe.lanes index)) }

/-- Copying goes on.  In front of a full ring the worker waits, or drops the message if it may. -/
def copyNext (pipe : FanOutLanes Peer) : Option (FanOutLanes Peer) :=
  match pipe.copies with
  | [] => none
  | (target, left) :: rest =>
    if !pipe.copying then
      if (pipe.lanes target).peerCount ≠ 0 then some { pipe with copying := true }
      else some { pipe with copies := rest }
    else
      match left with
      | [] => some { pipe with copies := rest, copying := false }
      | dispatch :: left =>
        if (pipe.lanes target).data.length < pipe.pipeCap then
          some { pipe.modifyLane target fun lane =>
            { lane with data := lane.data ++ [dispatch] } with
              copies := (target, left) :: rest }
        else if (pipe.lanes 0).worker.mutePolicy.isLossy then
          some { pipe with copies := (target, left) :: rest }
        else none

/-- Steps of the socket, of the workers and of the drivers. -/
inductive Action (Peer : Type*)
  | add (peer : Peer) (lane : Nat) (anyGroups : Bool)
  | notify (peer : Peer) (notice : PeerNotice)
  | dispatch (message : Message)
  /-- A worker handles a command. -/
  | control (lane : Nat)
  /-- A worker takes a batch out of its ring. -/
  | gather (lane count : Nat)
  /-- The first worker goes on copying its batch. -/
  | copy
  /-- A worker begins the next message of its batch. -/
  | begin (lane : Nat)
  | work (lane : Nat)
  | slot (lane : Nat) (peer : Peer) (change : LaneWorker.SlotChange)
  | reorder (lane : Nat) (peers : List (Peer × LanePeer))

variable [DecidableEq Peer] [CompressionPrimitives]

/-- Let a worker take a step, and leave it the given commands. -/
def workerStep (pipe : FanOutLanes Peer) (index : Nat) (action : LaneWorker.Action Peer)
    (ctrl : List (Peer × PeerNotice)) : Option (FanOutLanes Peer) :=
  ((pipe.lanes index).worker.step action).map fun worker =>
    pipe.modifyLane index fun lane => { lane with worker, ctrl }

def step (pipe : FanOutLanes Peer) : Action Peer → Option (FanOutLanes Peer)
  | .add peer lane anyGroups =>
    let lane := min lane (pipe.laneCount - 1)
    if peer ∉ pipe.joined ∧ (pipe.lanes lane).ctrl.length < laneCtrlRingCap then
      some { pipe.modifyLane lane fun lane => lane.tell peer (.add anyGroups) with
        registered := pipe.registered ++ [⟨peer, lane, pipe.dispatched.length⟩]
        joined := peer :: pipe.joined }
    else none
  | .notify peer notice =>
    match pipe.registered.find? (·.peer = peer) with
    | none => none
    | some entry =>
      if !notice.isAdd ∧ (pipe.lanes entry.lane).ctrl.length < laneCtrlRingCap then
        some { pipe.modifyLane entry.lane fun lane => lane.tell peer notice with
          registered := if notice.isRemove then pipe.registered.filter (·.peer ≠ peer)
            else pipe.registered }
      else none
  | .dispatch message =>
    match LaneDispatch.prepare pipe.mode message with
    | .error _ => none
    | .ok dispatch =>
      if (pipe.lanes 0).data.length < pipe.pipeCap then
        some { pipe.modifyLane 0 fun lane => { lane with data := lane.data ++ [dispatch] } with
          dispatched := pipe.dispatched ++ [dispatch] }
      else none
  | .control index =>
    match (pipe.lanes index).ctrl with
    | [] => none
    | (peer, notice) :: rest => pipe.workerStep index (.control (notice.control peer)) rest
  | .gather index count =>
    let lane := pipe.lanes index
    if lane.batch = [] ∧ lane.worker.job.isNone ∧ (index = 0 → pipe.copies = []) then
      let batch := lane.data.take count
      some { pipe.modifyLane index fun lane =>
          { lane with batch, data := lane.data.drop count } with
        copies := if index = 0 then (List.range' 1 (pipe.laneCount - 1)).map (·, batch)
          else pipe.copies
        copying := if index = 0 then false else pipe.copying }
    else none
  | .copy => pipe.copyNext
  | .begin index =>
    let lane := pipe.lanes index
    match lane.batch with
    | [] => none
    | dispatch :: batch =>
      if lane.worker.job.isNone ∧ (index = 0 → pipe.copies = []) then
        some (pipe.modifyLane index fun lane =>
          { lane with
            worker := lane.worker.beginDispatch dispatch
            batch
            log := lane.log ++ [(dispatch, lane.worker.peers)] })
      else none
  | .work index => pipe.workerStep index .work (pipe.lanes index).ctrl
  | .slot index peer change =>
    pipe.workerStep index (.slot peer change) (pipe.lanes index).ctrl
  | .reorder index peers => pipe.workerStep index (.reorder peers) (pipe.lanes index).ctrl

end FanOutLanes

/-! ## One worker without compression -/

/-- A message which a lane frames whole and does not take for a dictionary. -/
def Message.Plain (message : Message) : Prop := message.len < 512 ∧ isDictShipment message = false

namespace LaneWorker

variable {Peer : Type*} [DecidableEq Peer]

def subscribedToAll (peers : List (Peer × LanePeer)) : Nat :=
  peers.countP fun entry => entry.2.subscriptions.subscribeAll

variable {peers : List (Peer × LanePeer)} {entry : LanePeer} {worker : LaneWorker Peer}
  {peer : Peer}

/-- One peer counts apart from the others. -/
theorem subscribedToAll_eq (unique : (peers.map Prod.fst).Nodup) (peer : Peer) :
    subscribedToAll peers = subscribedToAll (peers.filter (·.1 ≠ peer)) +
      if (peers.lookup peer).any (·.subscriptions.subscribeAll) then 1 else 0 := by
  induction peers with
  | nil => rfl
  | cons head rest induction =>
    obtain ⟨other, value⟩ := head
    rw [map_cons, nodup_cons] at unique
    have counted := induction unique.2
    rw [lookup_cons_ite]
    unfold subscribedToAll at counted ⊢
    rw [countP_cons, counted]
    by_cases same : peer = other
    · subst same
      simp [lookup_eq_none unique.1]
    · rw [if_neg same, filter_cons_of_pos (by simpa using Ne.symm same), countP_cons]
      omega

theorem keys_modifyPeer (worker : LaneWorker Peer) (peer : Peer) (change : LanePeer → LanePeer) :
    (worker.modifyPeer peer change).peers.map Prod.fst = worker.peers.map Prod.fst := by
  simp only [modifyPeer, map_map]
  refine map_congr_left fun entry _ => ?_
  simp only [comp]
  split_ifs <;> rfl

theorem subscribedToAll_modifyPeer (unique : (worker.peers.map Prod.fst).Nodup)
    (found : worker.peer? peer = some entry) (change : LanePeer → LanePeer) :
    subscribedToAll (worker.modifyPeer peer change).peers = subscribedToAll worker.peers +
      (if (change entry).subscriptions.subscribeAll then 1 else 0) -
      if entry.subscriptions.subscribeAll then 1 else 0 := by
  have keys := keys_modifyPeer worker peer change
  have others : (worker.modifyPeer peer change).peers.filter (·.1 ≠ peer) =
      worker.peers.filter (·.1 ≠ peer) := by
    unfold modifyPeer
    induction worker.peers with
    | nil => rfl
    | cons head rest induction =>
      rw [map_cons, filter_cons, filter_cons, induction]
      split_ifs with same <;> simp_all
  have looked : (worker.modifyPeer peer change).peers.lookup peer = some (change entry) := by
    have := peer?_modifyPeer worker peer peer change
    rwa [if_pos rfl, found] at this
  have before : worker.peers.lookup peer = some entry := found
  rw [subscribedToAll_eq (keys ▸ unique) peer, subscribedToAll_eq unique peer, others, looked,
    before]
  simp only [Option.any_some]
  omega

theorem subscribedToAll_regroup (worker : LaneWorker Peer) (peer : Peer)
    (regroup : LanePeer → List (List Char)) :
    subscribedToAll (worker.modifyPeer peer fun entry =>
        { entry with groups := regroup entry }).peers = subscribedToAll worker.peers := by
  rw [subscribedToAll, modifyPeer, countP_map, subscribedToAll]
  congr 1
  funext entry
  simp only [comp]
  split_ifs <;> rfl

def keysAfter (keys : List Peer) (peer : Peer) : PeerNotice → List Peer
  | .add _ => keys ++ [peer]
  | .remove => keys.filter (· ≠ peer)
  | _ => keys

/-- An active peer is selected exactly when its own subscriptions or groups match. -/
theorem mem_matching_iff (unique : (worker.peers.map Prod.fst).Nodup)
    (counted : worker.subscribeAllCount = subscribedToAll worker.peers)
    (active : (worker.slots peer).fanoutActive = true) (dispatch : LaneDispatch) :
    peer ∈ worker.matching dispatch ↔
      (worker.peers.lookup peer).any (peerMatches worker.mode · dispatch) = true := by
  have shortcut {entry : LanePeer} (member : (peer, entry) ∈ worker.peers)
      (prefixes : worker.mode = .subscriptionPrefix)
      (all : worker.subscribeAllCount = worker.peers.length) :
      peerMatches worker.mode entry dispatch = true := by
    rw [counted, subscribedToAll, countP_eq_length] at all
    have everything : entry.subscriptions.subscribeAll = true := all _ member
    simp [prefixes, peerMatches, SubscriptionSet.matchesTopic, everything]
  simp only [matching, mem_map, mem_filter, Prod.exists, exists_and_right, exists_eq_right,
    Option.any_eq_true, ← mem_iff_lookup unique, active, Bool.true_and, Bool.or_eq_true,
    decide_eq_true_eq]
  refine exists_congr fun entry => and_congr_right fun member => ?_
  exact ⟨fun selected => selected.elim (fun all => shortcut member all.1 all.2.2) id, .inr⟩

/-- A driver leaves a living slot active. -/
theorem SlotChange.active_apply (change : SlotChange) {slot : PeerTransmitSlot}
    (alive : (change.apply slot).dead = false)
    (active : slot.dead = false → slot.fanoutActive = true) :
    slot.dead = false ∧ (change.apply slot).fanoutActive = true := by
  cases change with
  | drainArena =>
    simp only [apply, PeerTransmitSlot.tryDrainArenaOnly] at alive ⊢
    split_ifs at alive ⊢
    · simp_all [PeerTransmitSlot.settle]
    · exact ⟨alive, active alive⟩
  | drain maxChunks =>
    have alive_before : slot.dead = false := (slot.drain_flags maxChunks).2.1.symm.trans alive
    have active := active alive_before
    refine ⟨alive_before, ?_⟩
    simp only [apply, PeerTransmitSlot.drain, PeerTransmitSlot.settle]
    split_ifs <;> simp [active, PeerTransmitSlot.markFanoutDictShipped]
  | die => cases alive

variable [CompressionPrimitives]

/-- A notice changes the table of peers and the counter only, and the counter stays right. -/
theorem handleControl_notice {worker after : LaneWorker Peer} {peer : Peer} {notice : PeerNotice}
    (handled : worker.handleControl (notice.control peer) = after)
    (unique : (worker.peers.map Prod.fst).Nodup)
    (counted : worker.subscribeAllCount = subscribedToAll worker.peers)
    (unknown : ∀ anyGroups, notice = .add anyGroups → peer ∉ worker.peers.map Prod.fst) :
    after = { worker with peers := after.peers, subscribeAllCount := after.subscribeAllCount } ∧
      after.peers.map Prod.fst = keysAfter (worker.peers.map Prod.fst) peer notice ∧
      after.subscribeAllCount = subscribedToAll after.peers := by
  have others : (worker.peers.filter (·.1 ≠ peer)).map Prod.fst =
      (worker.peers.map Prod.fst).filter (· ≠ peer) := by
    simp [filter_map, comp_def]
  have split := subscribedToAll_eq unique peer
  subst handled
  cases notice with
  | add anyGroups =>
    have new : worker.peers.filter (·.1 ≠ peer) = worker.peers := by
      rw [filter_eq_self]
      intro entry member
      simpa using fun same : entry.1 = peer =>
        unknown anyGroups rfl (same ▸ mem_map_of_mem member)
    simp only [PeerNotice.control, handleControl, new]
    refine ⟨trivial, by simp [keysAfter], ?_⟩
    simp [counted, subscribedToAll, SubscriptionSet.new]
  | remove =>
    refine ⟨rfl, others, ?_⟩
    simp only [PeerNotice.control, handleControl, counted, peer?]
    cases found : worker.peers.lookup peer with
    | none => simp [split, found]
    | some entry =>
      by_cases all : entry.subscriptions.subscribeAll = true <;> simp [split, found, all]
  | subscribe topic | cancel topic =>
    simp only [PeerNotice.control, handleControl]
    split
    next entry found =>
      refine ⟨rfl, ?_, ?_⟩ <;> dsimp only [keysAfter]
      · rw [keys_modifyPeer]
      · rw [subscribedToAll_modifyPeer unique found]
        by_cases everything : topic = [] <;>
          by_cases before : entry.subscriptions.subscribeAll = true <;>
          simp [SubscriptionSet.add, SubscriptionSet.remove, everything, before, counted]
    · exact ⟨rfl, rfl, counted⟩
  | join group | leave group =>
    simp only [PeerNotice.control, handleControl]
    split_ifs
    · exact ⟨rfl, keys_modifyPeer worker peer _, counted.trans (subscribedToAll_regroup ..).symm⟩
    · exact ⟨rfl, rfl, counted⟩

omit [DecidableEq Peer] in
/-- Without an encoder a plain message is framed once for all selected peers. -/
theorem beginDispatch_plain (no_encoder : worker.encoder = none)
    (nothing_left : worker.leftover = []) (blocking : worker.mutePolicy = .block)
    (idle : worker.job = none) {dispatch : LaneDispatch} (plain : dispatch.msg.Plain) :
    ∃ job, worker.beginDispatch dispatch = { worker with job } ∧
      (∀ next ∈ job, next.stage = .payload ∧ next.shipment = none ∧ next.wires = [dispatch.msg] ∧
        next.frame.bytes = encodeMessageFlat dispatch.msg ∧
        next.remaining = worker.matching dispatch) ∧
      (job = none → worker.matching dispatch = []) := by
  unfold beginDispatch
  dsimp only
  split_ifs with nobody
  · exact ⟨none, by rw [← idle], by simp, fun _ => nobody⟩
  · obtain ⟨bytes_eq, left_eq⟩ :=
      buildFanOutFrame_of_short plain.1 (worker.matching dispatch).length
    have wires : takeLeadingDictShipment [dispatch.msg] = (none, [dispatch.msg]) := by
      simp [takeLeadingDictShipment, plain.2]
    simp only [encode, no_encoder, wires, startPayload, blocking, FanOutMutePolicy.isLossy,
      nothing_left, Bool.false_eq_true, false_and, if_false, left_eq, Option.map_none]
    refine ⟨some _, by rw [← nothing_left], ?_, by simp⟩
    rintro next ⟨⟩
    exact ⟨rfl, rfl, rfl, by rw [nothing_left]; exact bytes_eq, rfl⟩

end LaneWorker

/-! ## One lane -/

namespace LaneWorker

variable {Peer : Type*} [DecidableEq Peer]

def adds (ctrl : List (Peer × PeerNotice)) : List Peer :=
  ctrl.filterMap fun
    | (peer, .add _) => some peer
    | _ => none

variable {peer : Peer} {notice : PeerNotice}

omit [DecidableEq Peer] in
theorem mem_of_mem_adds {ctrl : List (Peer × PeerNotice)} (added : peer ∈ adds ctrl) :
    peer ∈ ctrl.map Prod.fst := by
  obtain ⟨⟨other, notice⟩, member, told⟩ := mem_filterMap.mp added
  cases notice <;> cases told
  exact mem_map_of_mem member

/-- The message in progress, if it still goes to the peer. -/
def pending (job : Option (LaneJob Peer)) (peer : Peer) : List Message :=
  match job with
  | some job => if peer ∈ job.remaining then job.wires else []
  | none => []

/-- The messages which matched what the peer had asked for when they were begun. -/
def selected (mode : FanOutMode) (log : List (LaneDispatch × List (Peer × LanePeer)))
    (peer : Peer) : List Message :=
  (log.filter fun (dispatch, peers) =>
    (peers.lookup peer).any (peerMatches mode · dispatch)).map (·.1.msg)

/-- A dispatch in progress: one plain message, for peers which are still there if they live. -/
structure PlainJob (live : Peer → Prop) (peers : List (Peer × LanePeer)) (job : LaneJob Peer) :
    Prop where
  stage : job.stage = .payload
  shipment : job.shipment = none
  wires : ∃ message, job.wires = [message] ∧ job.frame.bytes = encodeMessageFlat message
  unique : job.remaining.Nodup
  present : ∀ peer ∈ job.remaining, live peer → peer ∈ peers.map Prod.fst

/-- What holds of a worker, its ring of commands and the messages it has begun. -/
structure Serves (mode : FanOutMode) (joined : List Peer) (live : Peer → Prop)
    (worker : LaneWorker Peer) (ctrl : List (Peer × PeerNotice))
    (log : List (LaneDispatch × List (Peer × LanePeer))) : Prop where
  plain : worker.mode = mode ∧ worker.mutePolicy = .block ∧ worker.encoder = none ∧
    worker.leftover = []
  unique : (worker.peers.map Prod.fst ++ adds ctrl).Nodup
  counted : worker.subscribeAllCount = subscribedToAll worker.peers
  active : ∀ peer, (worker.slots peer).dead = false → (worker.slots peer).fanoutActive = true
  known : ∀ peer ∉ joined, peer ∉ worker.peers.map Prod.fst ∧ peer ∉ ctrl.map Prod.fst ∧
    worker.queued peer = [] ∧ pending worker.job peer = [] ∧ selected mode log peer = []
  kept : ∀ peer, live peer → (peer, .remove) ∉ ctrl
  job : ∀ job ∈ worker.job, PlainJob live worker.peers job
  framed : ∀ peer, (worker.queued peer).flatMap (·.frame.bytes) =
    ((worker.queued peer).flatMap (·.messages)).flatMap encodeMessageFlat
  delivered : ∀ peer, live peer → (worker.slots peer).dead = false →
    (worker.queued peer).flatMap (·.messages) ++ pending worker.job peer = selected mode log peer

variable {mode : FanOutMode} {joined : List Peer} {live : Peer → Prop} {worker : LaneWorker Peer}
  {ctrl : List (Peer × PeerNotice)} {log : List (LaneDispatch × List (Peer × LanePeer))}

section

variable (serves : worker.Serves mode joined live ctrl log)

include serves

theorem Serves.reorder {peers : List (Peer × LanePeer)} (perm : peers ~ worker.peers) :
    ({ worker with peers } : LaneWorker Peer).Serves mode joined live ctrl log := by
  have keys := perm.map Prod.fst
  refine { serves with unique := ?_, counted := ?_, known := ?_, job := ?_ }
  · exact (keys.append_right _).nodup_iff.mpr serves.unique
  · exact serves.counted.trans (perm.countP_eq _).symm
  · intro peer stranger
    exact (serves.known peer stranger).imp_left fun unknown member => unknown (keys.subset member)
  · intro job member
    refine { serves.job job member with present := fun peer remains lives => ?_ }
    exact keys.mem_iff.mpr ((serves.job job member).present peer remains lives)

theorem Serves.mono {fewer : Peer → Prop} (still : ∀ peer, fewer peer → live peer) :
    worker.Serves mode joined fewer ctrl log :=
  { serves with
    kept := fun peer lives => serves.kept peer (still peer lives)
    job := fun job member =>
      { serves.job job member with
        present := fun peer remains lives =>
          (serves.job job member).present peer remains (still peer lives) }
    delivered := fun peer lives => serves.delivered peer (still peer lives) }

theorem Serves.join (new : peer ∉ joined) :
    worker.Serves mode (peer :: joined) (fun other => other = peer ∨ live other) ctrl log := by
  obtain ⟨not_served, not_told, nothing_queued, nothing_pending, nothing_selected⟩ :=
    serves.known peer new
  refine { serves with known := ?_, kept := ?_, job := ?_, delivered := ?_ }
  · exact fun other stranger => serves.known other fun old => stranger (mem_cons_of_mem _ old)
  · rintro other (rfl | lives)
    · exact fun told => not_told (mem_map_of_mem told)
    · exact serves.kept other lives
  · intro job member
    refine { serves.job job member with present := ?_ }
    rintro other remains (rfl | lives)
    · obtain ⟨message, wires_eq, _⟩ := (serves.job job member).wires
      simp [pending, Option.mem_def.mp member, remains, wires_eq] at nothing_pending
    · exact (serves.job job member).present other remains lives
  · rintro other (rfl | lives)
    · simp [nothing_queued, nothing_pending, nothing_selected]
    · exact serves.delivered other lives

theorem Serves.tell (old : peer ∈ joined)
    (unknown : ∀ anyGroups, notice = .add anyGroups → peer ∉ worker.peers.map Prod.fst ++ adds ctrl)
    (leaving : notice = .remove → ¬live peer) :
    worker.Serves mode joined live (ctrl ++ [(peer, notice)]) log := by
  refine { serves with unique := ?_, known := ?_, kept := ?_ }
  · have unique := serves.unique
    cases notice with
    | add anyGroups =>
      have adds_eq : adds (ctrl ++ [(peer, .add anyGroups)]) = adds ctrl ++ [peer] := by
        simp [adds]
      rw [adds_eq, ← append_assoc, nodup_append_comm]
      exact nodup_cons.mpr ⟨unknown anyGroups rfl, unique⟩
    | _ => simpa [adds] using unique
  · intro other stranger
    obtain ⟨not_served, not_told, nothing⟩ := serves.known other stranger
    have different : other ≠ peer := fun same => stranger (same ▸ old)
    exact ⟨not_served, by simpa [different] using not_told, nothing⟩
  · intro other lives told
    rcases mem_append.mp told with told | told
    · exact serves.kept other lives told
    · obtain ⟨rfl, rfl⟩ : other = peer ∧ PeerNotice.remove = notice := by simpa using told
      exact leaving rfl lives

/-- A driver, or the worker itself, changes a slot. -/
theorem Serves.reslot {change : PeerTransmitSlot → PeerTransmitSlot}
    (changed : (change (worker.slots peer)).dead = false →
      (worker.slots peer).dead = false ∧ (change (worker.slots peer)).fanoutActive = true) :
    (worker.modifySlot peer change).Serves mode joined live ctrl log := by
  have each := (forall_update_iff worker.slots fun other slot => slot.dead = false →
    (worker.slots other).dead = false ∧ slot.fanoutActive = true).mpr
      ⟨changed, fun other _ alive => ⟨alive, serves.active other alive⟩⟩
  exact { serves with
    active := fun other alive => (each other alive).2
    delivered := fun other lives alive => serves.delivered other lives (each other alive).1 }

/-- The dispatch in progress changes, but not whom it still goes to. -/
theorem Serves.rejob {job : Option (LaneJob Peer)}
    (same : ∀ peer, pending job peer = pending worker.job peer)
    (plain : ∀ next ∈ job, PlainJob live worker.peers next) :
    ({ worker with job } : LaneWorker Peer).Serves mode joined live ctrl log :=
  { serves with
    known := by simpa only [same] using serves.known
    job := plain
    delivered := by simpa only [same] using serves.delivered }

/-- The message in progress goes to its next peer, or passes over a peer which does not live or
whose slot is dead. -/
theorem Serves.advance {job : LaneJob Peer} (job_eq : worker.job = some job) {peer : Peer}
    {rest : List Peer} (remaining_eq : job.remaining = peer :: rest) {frames : List QueuedFrame}
    (ready : Bool)
    (queued : frames = worker.queued peer ++ [⟨job.kind, job.content, job.frame⟩] ∨
      frames = worker.queued peer ∧ (live peer → (worker.slots peer).dead = true)) :
    (({ worker with queued := update worker.queued peer frames } :
      LaneWorker Peer).advance job peer rest ready).Serves mode joined live ctrl log := by
  obtain ⟨stage, shipment, ⟨message, wires_eq, bytes_eq⟩, unique, present⟩ := serves.job job job_eq
  rw [remaining_eq] at unique present
  have content_eq : job.content = [message] := by simp [LaneJob.content, stage, wires_eq]
  have old : peer ∈ joined := by
    by_contra stranger
    have nothing_pending := (serves.known peer stranger).2.2.2.1
    simp [pending, job_eq, remaining_eq, wires_eq] at nothing_pending
  have pending_eq {other : Peer} (different : other ≠ peer) :
      pending (({ worker with queued := update worker.queued peer frames } :
        LaneWorker Peer).advance job peer rest ready).job other = pending worker.job other := by
    simp [LaneWorker.advance, pending, job_eq, remaining_eq, different]
  refine { serves with known := ?_, job := ?_, framed := ?_, delivered := ?_ }
  · intro other stranger
    have different : other ≠ peer := fun same => stranger (same ▸ old)
    rw [pending_eq different]
    simpa only [LaneWorker.advance, update_of_ne different] using serves.known other stranger
  · rintro next ⟨⟩
    exact ⟨stage, shipment, ⟨message, wires_eq, bytes_eq⟩, (nodup_cons.mp unique).2,
      fun other remains => present other (mem_cons_of_mem _ remains)⟩
  · intro other
    have before := serves.framed other
    by_cases same : other = peer
    · subst same
      rcases queued with rfl | ⟨rfl, _⟩
      · simp [LaneWorker.advance, before, content_eq, bytes_eq]
      · simpa [LaneWorker.advance] using before
    · simpa only [LaneWorker.advance, update_of_ne same] using before
  · intro other lives alive
    have before := serves.delivered other lives alive
    by_cases same : other = peer
    · subst same
      rcases queued with rfl | ⟨_, gone⟩
      · have last : other ∉ rest := (nodup_cons.mp unique).1
        simpa [LaneWorker.advance, pending, job_eq, remaining_eq, last, content_eq, wires_eq]
          using before
      · exact absurd (gone lives) (by simpa [LaneWorker.advance] using alive)
    · rw [pending_eq same]
      simpa only [LaneWorker.advance, update_of_ne same] using before

theorem Serves.pass {job : LaneJob Peer} (job_eq : worker.job = some job) {rest : List Peer}
    (remaining_eq : job.remaining = peer :: rest)
    (gone : live peer → (worker.slots peer).dead = true) :
    (worker.advance job peer rest false).Serves mode joined live ctrl log := by
  have passed := serves.advance job_eq remaining_eq false (.inr ⟨rfl, gone⟩)
  rwa [update_eq_self] at passed

theorem Serves.continueJob {job : LaneJob Peer} (job_eq : worker.job = some job) :
    (worker.continueJob job).Serves mode joined live ctrl log := by
  obtain ⟨_, blocking, _, _⟩ := serves.plain
  have plain := serves.job job job_eq
  unfold LaneWorker.continueJob
  cases remaining_eq : job.remaining with
  | nil =>
    simp only [plain.stage]
    refine serves.rejob (fun peer => ?_) (by simp)
    simp [pending, job_eq, remaining_eq]
  | cons peer rest =>
    dsimp only
    unfold pushNext
    cases found : worker.peer? peer with
    | none =>
      refine serves.pass job_eq remaining_eq fun lives => ?_
      obtain ⟨entry, member⟩ := mem_map.mp (plain.present peer (by simp [remaining_eq]) lives)
      obtain ⟨member, rfl⟩ := member
      have listed := (mem_iff_lookup (nodup_append.mp serves.unique).1).mp member
      simp [peer?, listed] at found
    | some entry =>
      have wanted : worker.wants job peer entry = true := by
        simp [wants, plain.stage, plain.shipment]
      have reslotted (slot : PeerTransmitSlot) (dead : slot.dead = (worker.slots peer).dead)
          (active : slot.fanoutActive = (worker.slots peer).fanoutActive) :
          (worker.modifySlot peer fun _ => slot).Serves mode joined live ctrl log := by
        refine serves.reslot fun alive => ?_
        have alive := dead.symm.trans alive
        exact ⟨alive, active.trans (serves.active peer alive)⟩
      simp only [wanted, plain.stage, blocking, Bool.not_true, Bool.false_eq_true, if_false,
        reduceCtorEq, decide_false]
      obtain ⟨dead, pushed⟩ | ⟨alive, pushed | ⟨-, pushed⟩⟩ :=
        answered_pushFrame .block (by simp) false job.frame (worker.slots peer)
      · rw [pushed]
        exact (reslotted (worker.slots peer) rfl rfl).pass job_eq remaining_eq fun _ => by
          simpa [modifySlot] using dead
      · rw [pushed]
        refine (reslotted (worker.slots peer).refuse rfl rfl).rejob (fun other => ?_) ?_
        · simp [pending, modifySlot, job_eq]
        · rintro next ⟨⟩
          exact ⟨rfl, plain.shipment, plain.wires, plain.unique, plain.present⟩
      · rw [pushed]
        exact (reslotted ((worker.slots peer).accept _) rfl rfl).advance job_eq remaining_eq true
          (.inl rfl)

end

variable [CompressionPrimitives]

theorem Serves.control (serves : worker.Serves mode joined live ((peer, notice) :: ctrl) log) :
    (worker.handleControl (notice.control peer)).Serves mode joined live ctrl log := by
  have unique := serves.unique
  have adds_eq : adds ((peer, notice) :: ctrl) = (match notice with
      | .add _ => [peer]
      | _ => []) ++ adds ctrl := by
    simp only [adds, filterMap_cons]
    cases notice <;> rfl
  rw [adds_eq] at unique
  have unknown (anyGroups : Bool) (new : notice = .add anyGroups) :
      peer ∉ worker.peers.map Prod.fst := by
    subst new
    exact fun old => (nodup_append.mp unique).2.2 peer old peer (by simp) rfl
  generalize handled : worker.handleControl (notice.control peer) = after
  obtain ⟨after_eq, keys_eq, counted⟩ := handleControl_notice handled
    (nodup_append.mp unique).1 serves.counted unknown
  generalize after.peers = peers at *
  generalize after.subscribeAllCount = count at *
  subst after_eq
  refine { serves with unique := ?_, counted, known := ?_, kept := ?_, job := ?_ }
  · dsimp only
    rw [keys_eq]
    cases notice with
    | add anyGroups => simpa [keysAfter] using unique
    | remove => exact unique.sublist (filter_sublist.append (List.Sublist.refl _))
    | _ => exact unique
  · intro other stranger
    obtain ⟨not_served, not_told, nothing⟩ := serves.known other stranger
    rw [map_cons, mem_cons, not_or] at not_told
    refine ⟨?_, not_told.2, nothing⟩
    dsimp only
    rw [keys_eq]
    cases notice <;> simp_all [keysAfter]
  · exact fun other lives told => serves.kept other lives (mem_cons_of_mem _ told)
  · intro job member
    refine { serves.job job member with present := fun other remains lives => ?_ }
    have present := (serves.job job member).present other remains lives
    rw [keys_eq]
    cases notice with
    | add anyGroups => exact mem_append_left _ present
    | remove =>
      have stays : other ≠ peer := fun same => serves.kept other lives (by simp [same])
      exact mem_filter.mpr ⟨present, by simpa using stays⟩
    | _ => exact present

theorem Serves.begin (serves : worker.Serves mode joined live ctrl log) (idle : worker.job = none)
    {dispatch : LaneDispatch} (plain : dispatch.msg.Plain) :
    (worker.beginDispatch dispatch).Serves mode joined live ctrl
      (log ++ [(dispatch, worker.peers)]) := by
  obtain ⟨rfl, blocking, no_encoder, nothing_left⟩ := serves.plain
  have unique := (nodup_append.mp serves.unique).1
  obtain ⟨job, begun, spec, nobody⟩ :=
    beginDispatch_plain no_encoder nothing_left blocking idle plain
  rw [begun]
  have pending_eq (peer : Peer) : pending job peer =
      if peer ∈ worker.matching dispatch then [dispatch.msg] else [] := by
    cases job with
    | none => simp [pending, nobody rfl]
    | some job =>
      obtain ⟨_, _, wires_eq, _, remaining_eq⟩ := spec job rfl
      simp [pending, wires_eq, remaining_eq]
  have selected_eq (peer : Peer) : selected worker.mode (log ++ [(dispatch, worker.peers)]) peer =
      selected worker.mode log peer ++ if (worker.peers.lookup peer).any
        (peerMatches worker.mode · dispatch) then [dispatch.msg] else [] := by
    simp only [selected, filter_append, map_append, filter_singleton]
    split_ifs with matched <;> simp [matched]
  refine { serves with known := ?_, job := ?_, delivered := ?_ }
  · intro peer stranger
    obtain ⟨not_served, not_told, nothing_queued, _, nothing_selected⟩ := serves.known peer stranger
    have unselected : peer ∉ worker.matching dispatch := fun member =>
      not_served ((filter_sublist.map Prod.fst).subset member)
    refine ⟨not_served, not_told, nothing_queued, (pending_eq peer).trans (if_neg unselected), ?_⟩
    simp [selected_eq, nothing_selected, lookup_eq_none not_served]
  · intro next member
    obtain ⟨stage, shipment, wires_eq, bytes_eq, remaining_eq⟩ := spec next member
    refine ⟨stage, shipment, ⟨_, wires_eq, bytes_eq⟩, ?_, ?_⟩
    · rw [remaining_eq]
      exact unique.sublist (filter_sublist.map Prod.fst)
    · intro peer remains _
      rw [remaining_eq] at remains
      exact (filter_sublist.map Prod.fst).subset remains
  · intro peer lives alive
    have before := serves.delivered peer lives alive
    rw [idle, pending, append_nil] at before
    have same := mem_matching_iff unique serves.counted (serves.active peer alive) dispatch
    rw [before, pending_eq, selected_eq, if_congr same rfl rfl]

end LaneWorker

end Omq
