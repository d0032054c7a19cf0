import Omq.Tokio.FanOut.Pipeline
import Omq.Tokio.Outlets

/-!
# When the fan-out of a socket is drained

The socket asks the ring of the first lane, the rings of commands and the queues of its peers.  What
workers hold in between is not asked for.
-/

namespace Omq

open Transition LaneWorker List

namespace LaneWorker

variable {Peer : Type*} [DecidableEq Peer] (worker : LaneWorker Peer)

theorem keys_pushNext (job : LaneJob Peer) (peer : Peer) (rest : List Peer) :
    (worker.pushNext job peer rest).peers.map Prod.fst = worker.peers.map Prod.fst := by
  have marked (pushed : LaneWorker Peer) (same : pushed.peers = worker.peers) :
      (pushed.markDict peer).peers.map Prod.fst = worker.peers.map Prod.fst := by
    unfold markDict
    split_ifs
    · rw [same]
    · dsimp only [modifySlot]
      rw [keys_modifyPeer, same]
  unfold pushNext
  dsimp only
  split
  · rfl
  · split_ifs
    · rfl
    all_goals
      split
      · first | rfl | exact marked _ rfl
      · split <;> rfl
      · rfl

theorem keys_continueJob (job : LaneJob Peer) :
    (worker.continueJob job).peers.map Prod.fst = worker.peers.map Prod.fst := by
  unfold continueJob
  split
  · exact keys_pushNext ..
  · split
    · unfold startPayload
      split_ifs <;> rfl
    · rfl

variable [CompressionPrimitives]

omit [DecidableEq Peer] in
theorem keys_beginDispatch (dispatch : LaneDispatch) :
    (worker.beginDispatch dispatch).peers.map Prod.fst = worker.peers.map Prod.fst := by
  have encoded : (worker.encode dispatch.msg).1.peers = worker.peers := by
    unfold encode
    split <;> rfl
  unfold beginDispatch
  dsimp only
  split_ifs
  · rfl
  · split
    next encoding_eq => rw [← encoded, encoding_eq]
    next encoding_eq =>
      rw [← encoded, encoding_eq]
      split
      · rfl
      · unfold startPayload
        split_ifs <;> rfl

/-- A command adds at most the peer it adds, and takes away the peer it removes. -/
theorem keys_handleControl_subset (peer : Peer) (notice : PeerNotice) :
    (worker.handleControl (notice.control peer)).peers.map Prod.fst ⊆
      keysAfter (worker.peers.map Prod.fst) peer notice := by
  have others : (worker.peers.filter (·.1 ≠ peer)).map Prod.fst =
      (worker.peers.map Prod.fst).filter (· ≠ peer) := by
    simp [filter_map, Function.comp_def]
  cases notice with
  | add anyGroups =>
    simp only [PeerNotice.control, handleControl, keysAfter, map_append, map_cons, map_nil, others]
    exact (filter_sublist.append (List.Sublist.refl _)).subset
  | remove => exact (List.Perm.of_eq others).subset
  | subscribe topic | cancel topic =>
    simp only [PeerNotice.control, handleControl]
    split
    · dsimp only
      rw [keys_modifyPeer]
      exact List.Subset.refl _
    · exact List.Subset.refl _
  | join group | leave group =>
    simp only [PeerNotice.control, handleControl]
    split_ifs
    · exact (List.Perm.of_eq (keys_modifyPeer worker peer _)).subset
    · exact List.Subset.refl _

end LaneWorker

namespace FanOutLane

variable {Peer : Type*} [DecidableEq Peer]

/-- The peers a worker has once it has handled the given commands. -/
def served (keys : List Peer) (ctrl : List (Peer × PeerNotice)) : List Peer :=
  ctrl.foldl (fun keys told => keysAfter keys told.1 told.2) keys

theorem served_mono (ctrl : List (Peer × PeerNotice)) {fewer keys : List Peer}
    (subset : fewer ⊆ keys) : served fewer ctrl ⊆ served keys ctrl := by
  induction ctrl generalizing fewer keys with
  | nil => exact subset
  | cons told rest induction =>
    refine induction ?_
    obtain ⟨peer, notice⟩ := told
    cases notice with
    | add anyGroups =>
      exact append_subset.mpr ⟨subset_append_of_subset_left _ subset, subset_append_right _ _⟩
    | remove => exact filter_subset _ subset
    | _ => exact subset

end FanOutLane

namespace FanOutLanes

variable {Peer : Type*}

def Live (pipe : FanOutLanes Peer) (peer : Peer) : Prop :=
  ∃ entry ∈ pipe.registered, entry.peer = peer

variable {pipe after : FanOutLanes Peer} {changed : Nat} {lane : FanOutLane Peer}

theorem forall_update (property : Nat → FanOutLane Peer → Prop)
    (all : ∀ index, property index (pipe.lanes index)) (holds : property changed lane)
    (index : Nat) : property index (Function.update pipe.lanes changed lane index) := by
  by_cases same : index = changed
  · subst same
    simpa using holds
  · simpa [same] using all index

/-- Copying changes only what is left to copy and the rings of messages. -/
theorem copyNext_frame (copied : pipe.copyNext = some after) :
    (after.mode, after.laneCount, after.pipeCap, after.registered, after.joined) =
        (pipe.mode, pipe.laneCount, pipe.pipeCap, pipe.registered, pipe.joined) ∧
      (after.copies.map Prod.fst).Sublist (pipe.copies.map Prod.fst) ∧
      ∀ index, ∃ data, after.lanes index = { pipe.lanes index with data } := by
  revert copied
  fun_cases copyNext pipe <;> rintro ⟨⟩
  next => exact ⟨rfl, List.Sublist.refl _, fun _ => ⟨_, rfl⟩⟩
  next copies_eq _ _ =>
    rw [copies_eq]
    exact ⟨rfl, sublist_cons_self _ _, fun _ => ⟨_, rfl⟩⟩
  next copies_eq =>
    rw [copies_eq]
    exact ⟨rfl, sublist_cons_self _ _, fun _ => ⟨_, rfl⟩⟩
  next copies_eq =>
    rw [copies_eq]
    exact ⟨rfl, List.Sublist.refl _, forall_update
      (fun index lane => ∃ data, lane = { pipe.lanes index with data })
      (fun _ => ⟨_, rfl⟩) ⟨_, rfl⟩⟩
  next copies_eq =>
    rw [copies_eq]
    exact ⟨rfl, List.Sublist.refl _, fun _ => ⟨_, rfl⟩⟩

variable [DecidableEq Peer]

def served (pipe : FanOutLanes Peer) (index : Nat) : List Peer :=
  FanOutLane.served ((pipe.lanes index).worker.peers.map Prod.fst) (pipe.lanes index).ctrl

/-- The tables of the socket and of the lanes fit together. -/
structure Tabled (pipe : FanOutLanes Peer) : Prop where
  joined : ∀ peer, pipe.Live peer → peer ∈ pipe.joined
  unique : (pipe.registered.map Registration.peer).Nodup
  inRange : ∀ entry ∈ pipe.registered, entry.lane = 0 ∨ entry.lane < pipe.laneCount
  counted : ∀ index, (pipe.lanes index).peerCount = pipe.registered.countP (·.lane = index)
  told : ∀ index, (pipe.lanes index).ctrl ≠ [] → index = 0 ∨ index < pipe.laneCount
  served : ∀ index, ∀ peer ∈ pipe.served index,
    ∃ entry ∈ pipe.registered, entry.peer = peer ∧ entry.lane = index

theorem Tabled.start (mode : FanOutMode) (mutePolicy : FanOutMutePolicy) (laneCount pipeCap : Nat)
    (setups : Peer → LaneWorker.SlotSetup) :
    (start mode mutePolicy laneCount pipeCap setups).Tabled where
  joined _ lives := nomatch lives
  unique := nodup_nil
  inRange _ member := nomatch member
  counted _ := rfl
  told _ told := absurd rfl told
  served _ _ member := nomatch member

theorem countP_others {registered : List (Registration Peer)}
    (unique : (registered.map Registration.peer).Nodup) {entry : Registration Peer}
    (member : entry ∈ registered) (holds : Registration Peer → Bool) :
    registered.countP holds = (registered.filter (·.peer ≠ entry.peer)).countP holds +
      if holds entry then 1 else 0 := by
  obtain ⟨before, behind, rfl⟩ := append_of_mem member
  have kept {part : List (Registration Peer)} (absent : entry.peer ∉ part.map Registration.peer) :
      part.filter (·.peer ≠ entry.peer) = part := by
    rw [filter_eq_self]
    intro other listed
    simpa using fun same : other.peer = entry.peer => absent (same ▸ mem_map_of_mem listed)
  rw [map_append, map_cons, nodup_middle, nodup_cons, mem_append, not_or] at unique
  rw [filter_append, filter_cons_of_neg (by simp), kept unique.1.1, kept unique.1.2,
    countP_append, countP_append, countP_cons]
  omega

theorem Tabled.keep (tabled : pipe.Tabled)
    (same : (after.laneCount, after.registered, after.joined) =
      (pipe.laneCount, pipe.registered, pipe.joined))
    (lanes : ∀ index, (after.lanes index).peerCount = (pipe.lanes index).peerCount ∧
      ((after.lanes index).ctrl ≠ [] → (pipe.lanes index).ctrl ≠ []) ∧
      after.served index ⊆ pipe.served index) : after.Tabled := by
  obtain ⟨mode, laneCount, pipeCap, after_lanes, registered, joined⟩ := after
  simp only [Prod.mk.injEq] at same
  obtain ⟨rfl, rfl, rfl⟩ := same
  exact ⟨tabled.joined, tabled.unique, tabled.inRange,
    fun index => (lanes index).1.trans (tabled.counted index),
    fun index told => tabled.told index ((lanes index).2.1 told),
    fun index peer member => tabled.served index peer ((lanes index).2.2 member)⟩

theorem Tabled.keepUpdate (tabled : pipe.Tabled)
    (same : (after.laneCount, after.registered, after.joined) =
      (pipe.laneCount, pipe.registered, pipe.joined))
    (lanes : after.lanes = Function.update pipe.lanes changed lane)
    (peerCount : lane.peerCount = (pipe.lanes changed).peerCount)
    (told : lane.ctrl ≠ [] → (pipe.lanes changed).ctrl ≠ [])
    (serves : FanOutLane.served (lane.worker.peers.map Prod.fst) lane.ctrl ⊆ pipe.served changed) :
    after.Tabled := by
  refine tabled.keep same ?_
  unfold FanOutLanes.served
  rw [lanes]
  exact forall_update (fun index lane => lane.peerCount = (pipe.lanes index).peerCount ∧
    (lane.ctrl ≠ [] → (pipe.lanes index).ctrl ≠ []) ∧
      FanOutLane.served (lane.worker.peers.map Prod.fst) lane.ctrl ⊆ pipe.served index)
    (fun index => ⟨rfl, id, List.Subset.refl _⟩) ⟨peerCount, told, serves⟩

theorem served_tell (index : Nat) (peer : Peer) (notice : PeerNotice) (other : Nat) :
    (pipe.modifyLane index fun lane => lane.tell peer notice).served other =
      if other = index then keysAfter (pipe.served index) peer notice
      else pipe.served other := by
  by_cases same : other = index
  · subst same
    simp [served, modifyLane, FanOutLane.tell, FanOutLane.served]
  · simp [served, modifyLane, same]

theorem Tabled.add (tabled : pipe.Tabled) {peer : Peer} (new : peer ∉ pipe.joined) {chosen : Nat}
    (range : chosen = 0 ∨ chosen < pipe.laneCount) (anyGroups : Bool) (since : Nat) :
    ({ pipe.modifyLane chosen fun lane => lane.tell peer (.add anyGroups) with
      registered := pipe.registered ++ [⟨peer, chosen, since⟩]
      joined := peer :: pipe.joined } : FanOutLanes Peer).Tabled := by
  have unnamed : peer ∉ pipe.registered.map Registration.peer := by
    rw [mem_map]
    exact fun known => new (tabled.joined peer known)
  refine ⟨?_, ?_, ?_, fun index => ?_, ?_, fun index other member => ?_⟩
  · rintro other ⟨entry, member, rfl⟩
    rcases mem_append.mp member with old | added
    · exact mem_cons_of_mem _ (tabled.joined _ ⟨entry, old, rfl⟩)
    · simp [mem_singleton.mp added]
  · rw [map_append, nodup_append_comm]
    exact nodup_cons.mpr ⟨unnamed, tabled.unique⟩
  · simp only [forall_mem_append, forall_mem_singleton]
    exact ⟨tabled.inRange, range⟩
  · have counted := tabled.counted index
    by_cases same : index = chosen
    · subst same
      simp [modifyLane, FanOutLane.tell, counted, countP_append]
    · simp [modifyLane, counted, countP_append, same, Ne.symm same]
  · exact forall_update (fun index lane => lane.ctrl ≠ [] → index = 0 ∨ index < pipe.laneCount)
      tabled.told fun _ => range
  · change other ∈ (pipe.modifyLane chosen fun lane =>
      lane.tell peer (.add anyGroups)).served index at member
    rw [served_tell] at member
    split_ifs at member with same
    · subst same
      rcases mem_append.mp member with old | added
      · obtain ⟨entry, listed, found⟩ := tabled.served index other old
        exact ⟨entry, mem_append_left _ listed, found⟩
      · exact ⟨_, mem_append_right _ (mem_singleton_self _), (mem_singleton.mp added).symm, rfl⟩
    · obtain ⟨entry, listed, found⟩ := tabled.served index other member
      exact ⟨entry, mem_append_left _ listed, found⟩

theorem Tabled.notify (tabled : pipe.Tabled) {entry : Registration Peer}
    (member : entry ∈ pipe.registered) {notice : PeerNotice} (not_add : notice.isAdd = false) :
    ({ pipe.modifyLane entry.lane fun lane => lane.tell entry.peer notice with
      registered := if notice.isRemove then pipe.registered.filter (·.peer ≠ entry.peer)
        else pipe.registered } : FanOutLanes Peer).Tabled := by
  have range := tabled.inRange entry member
  generalize registered_eq : (if notice.isRemove then
    pipe.registered.filter (·.peer ≠ entry.peer) else pipe.registered) = registered
  have fewer : registered.Sublist pipe.registered := by
    rw [← registered_eq]
    split_ifs
    · exact filter_sublist
    · exact List.Sublist.refl _
  refine ⟨?_, tabled.unique.sublist (fewer.map _), fun other listed =>
    tabled.inRange other (fewer.subset listed), fun index => ?_, ?_, fun index other listed => ?_⟩
  · rintro other ⟨entry, listed, rfl⟩
    exact tabled.joined _ ⟨entry, fewer.subset listed, rfl⟩
  · have counted := tabled.counted index
    subst registered_eq
    have split := countP_others tabled.unique member (·.lane = index)
    by_cases same : index = entry.lane
    · subst same
      cases notice <;> simp_all [modifyLane, FanOutLane.tell, PeerNotice.isRemove, PeerNotice.isAdd]
    · cases notice <;> simp_all [modifyLane, PeerNotice.isRemove, Ne.symm same]
  · exact forall_update (fun index lane => lane.ctrl ≠ [] → index = 0 ∨ index < pipe.laneCount)
      tabled.told fun _ => range
  · change other ∈ (pipe.modifyLane entry.lane fun lane =>
      lane.tell entry.peer notice).served index at listed
    rw [served_tell] at listed
    have before : other ∈ pipe.served index ∧ (notice = .remove → other ≠ entry.peer) := by
      split_ifs at listed with same
      · subst same
        cases notice <;> simp_all [keysAfter, PeerNotice.isAdd]
      · refine ⟨listed, fun _ named => same ?_⟩
        obtain ⟨found, known, found_peer, found_lane⟩ := tabled.served index other listed
        have once := inj_on_of_nodup_map tabled.unique known member (found_peer.trans named)
        rw [← found_lane, once]
    obtain ⟨found, known, found_peer, found_lane⟩ := tabled.served index other before.1
    refine ⟨found, ?_, found_peer, found_lane⟩
    subst registered_eq
    cases notice with
    | remove => exact mem_filter.mpr ⟨known, by simpa [found_peer] using before.2 rfl⟩
    | _ => exact known

def isEmpty (pipe : FanOutLanes Peer) : Bool :=
  (pipe.lanes 0).data.isEmpty &&
    (0 :: List.range' 1 (pipe.laneCount - 1)).all fun index => (pipe.lanes index).ctrl.isEmpty

theorem Tabled.live_of_isEmpty (tabled : pipe.Tabled) (empty : pipe.isEmpty = true) {index : Nat}
    {peer : Peer} (member : peer ∈ (pipe.lanes index).worker.peers.map Prod.fst) :
    ∃ entry ∈ pipe.registered, entry.peer = peer ∧ entry.lane = index := by
  refine tabled.served index peer ?_
  have nothing_told : (pipe.lanes index).ctrl = [] := by
    by_contra told
    have range := tabled.told index told
    simp only [isEmpty, Bool.and_eq_true, all_eq_true] at empty
    refine told (isEmpty_iff.mp (empty.2 index ?_))
    rw [mem_cons, mem_range'_1]
    omega
  rwa [FanOutLanes.served, nothing_told]

variable [CompressionPrimitives]

theorem Tabled.step {action : Action Peer} (tabled : pipe.Tabled)
    (stepped : pipe.step action = some after) : after.Tabled := by
  have workerKeys {index : Nat} {action : LaneWorker.Action Peer} {ctrl : List (Peer × PeerNotice)}
      {after : FanOutLanes Peer} (stepped : pipe.workerStep index action ctrl = some after)
      (told : ctrl ≠ [] → (pipe.lanes index).ctrl ≠ [])
      (serves : ∀ {worker}, (pipe.lanes index).worker.step action = some worker →
        FanOutLane.served (worker.peers.map Prod.fst) ctrl ⊆ pipe.served index) : after.Tabled := by
    obtain ⟨worker, worker_eq, rfl⟩ := Option.map_eq_some_iff.mp stepped
    exact tabled.keepUpdate rfl rfl rfl told (serves worker_eq)
  revert stepped
  fun_cases pipe.step action <;> intro stepped
  case case10 ctrl_eq => -- control
    refine workerKeys stepped (fun _ => by simp [ctrl_eq]) fun worker_eq => ?_
    rw [FanOutLanes.served, ctrl_eq, ← step_control worker_eq]
    exact FanOutLane.served_mono _ (keys_handleControl_subset ..)
  case case13 => -- copy
    obtain ⟨same, _, lanes⟩ := copyNext_frame stepped
    simp only [Prod.mk.injEq] at same
    refine tabled.keep (by simp [same]) fun index => ?_
    obtain ⟨data, lane_eq⟩ := lanes index
    rw [FanOutLanes.served, lane_eq]
    exact ⟨rfl, id, List.Subset.refl _⟩
  case case17 => -- work
    refine workerKeys stepped id fun worker_eq => ?_
    obtain ⟨job, _, rfl⟩ := step_work worker_eq
    rw [keys_continueJob]
    exact List.Subset.refl _
  case case18 => -- slot
    refine workerKeys stepped id fun worker_eq => ?_
    cases worker_eq
    exact List.Subset.refl _
  case case19 => -- reorder
    refine workerKeys stepped id fun worker_eq => ?_
    obtain ⟨same, rfl⟩ := step_reorder worker_eq
    exact FanOutLane.served_mono _ (same.1.map _).subset
  all_goals cases stepped
  next chosen new => exact tabled.add new.1 (by omega) _ _
  next entry found not_add =>
    obtain rfl : entry.peer = _ := by simpa using List.find?_some found
    exact tabled.notify (mem_of_find?_eq_some found) (by simpa using not_add.1)
  next => exact tabled.keepUpdate rfl rfl rfl id (List.Subset.refl _) -- dispatch
  next => exact tabled.keepUpdate rfl rfl rfl id (List.Subset.refl _) -- gather
  next => -- begin
    refine tabled.keepUpdate rfl rfl rfl id ?_
    dsimp only
    rw [keys_beginDispatch]
    exact List.Subset.refl _

/-- The first worker copies to other lanes only, and their rings have room for a message. -/
def Distributes (pipe : FanOutLanes Peer) : Prop := 0 < pipe.pipeCap ∧ 0 ∉ pipe.copies.map Prod.fst

theorem Distributes.step {action : Action Peer} (distributes : pipe.Distributes)
    (stepped : pipe.step action = some after) : after.Distributes := by
  have kept {index : Nat} {action : LaneWorker.Action Peer} {ctrl : List (Peer × PeerNotice)}
      (stepped : pipe.workerStep index action ctrl = some after) : after.Distributes := by
    obtain ⟨worker, -, rfl⟩ := Option.map_eq_some_iff.mp stepped
    exact distributes
  revert stepped
  fun_cases pipe.step action <;> intro stepped
  case case13 => -- copy
    obtain ⟨same, copies, _⟩ := copyNext_frame stepped
    simp only [Prod.mk.injEq] at same
    exact ⟨same.2.2.1 ▸ distributes.1, fun first => distributes.2 (copies.subset first)⟩
  all_goals first | exact kept stepped | cases stepped
  all_goals try exact distributes
  refine ⟨distributes.1, ?_⟩ -- gather
  dsimp only
  split_ifs
  · simp [map_map, Function.comp_def]
  · exact distributes.2

/-- A worker which waits in front of a ring waits for another lane. -/
theorem Distributes.copies_of_empty (distributes : pipe.Distributes)
    (waits : pipe.step .copy = none) (empty : ∀ index ≠ 0, (pipe.lanes index).data = []) :
    pipe.copies = [] := by
  change pipe.copyNext = none at waits
  revert waits
  fun_cases copyNext pipe <;> intro waits
  · assumption
  all_goals try cases waits
  next target _ _ _ _ full _ copies_eq =>
    have other : target ≠ 0 := by
      rintro rfl
      exact distributes.2 (by simp [copies_eq])
    simp [empty target other, distributes.1] at full

end FanOutLanes

def PeerOutbound.isEmpty : PeerOutbound → Bool
  | .wire peer => peer.slot.isEmpty
  | .inbox channel => channel.items.isEmpty

/-- What waits in the slot of an outlet, or in the inbox which stands for it. -/
def PeerOutbound.Clear : PeerOutbound → Prop
  | .wire peer => peer.slot.eq.content = []
  | .inbox channel => channel.items = []

/-- The fan-out of a socket: its lanes, and the outlets of the peers which are on no lane. -/
structure FanOutSend (Peer : Type*) where
  lanes : FanOutLanes Peer
  fallback : List PeerOutbound

namespace FanOutSend

variable {Peer : Type*} [DecidableEq Peer]

def start (mode : FanOutMode) (mutePolicy : FanOutMutePolicy) (laneCount sendHwm : Nat)
    (setups : Peer → LaneWorker.SlotSetup) : FanOutSend Peer :=
  ⟨.start mode mutePolicy laneCount (max sendHwm 1) setups, []⟩

def isDrained (send : FanOutSend Peer) : Bool :=
  send.lanes.isEmpty &&
    (send.lanes.registered.all fun entry =>
      ((send.lanes.lanes entry.lane).worker.slots entry.peer).isEmpty) &&
    send.fallback.all PeerOutbound.isEmpty

/-- No message waits in a ring, with a worker or in the slot of a peer. -/
structure Clear (send : FanOutSend Peer) : Prop where
  rings : ∀ index, (send.lanes.lanes index).data = []
  copies : send.lanes.copies = []
  workers : ∀ index, (send.lanes.lanes index).batch = [] ∧
    (send.lanes.lanes index).worker.job = none
  registered : ∀ entry ∈ send.lanes.registered,
    ((send.lanes.lanes entry.lane).worker.slots entry.peer).eq.content = []
  served : ∀ index, ∀ peer ∈ (send.lanes.lanes index).worker.peers.map Prod.fst,
    ((send.lanes.lanes index).worker.slots peer).eq.content = []
  fallback : ∀ target ∈ send.fallback, target.Clear

/-- Steps: of the lanes, of a worker which is given an encoder, and of sends to the other peers and
of their drivers. -/
inductive Action (Peer : Type*)
  | lanes (action : FanOutLanes.Action Peer)
  | encoder (lane : Nat) (encoder : MessageEncoder)
  | fallback (targets : List PeerOutbound)

variable [CompressionPrimitives]

def step (send : FanOutSend Peer) : Action Peer → Option (FanOutSend Peer)
  | .lanes action => (send.lanes.step action).map fun lanes => { send with lanes }
  | .encoder index encoder => some { send with
      lanes := send.lanes.modifyLane index fun lane =>
        { lane with worker := { lane.worker with encoder := some encoder } } }
  | .fallback targets => some { send with fallback := targets }

theorem tabled_step {before after : FanOutSend Peer} {action : Action Peer}
    (stepped : before.step action = some after)
    (holds : before.lanes.Tabled ∧ before.lanes.Distributes) :
    after.lanes.Tabled ∧ after.lanes.Distributes := by
  obtain ⟨tabled, distributes⟩ := holds
  cases action with
  | lanes action =>
    obtain ⟨lanes, lanes_eq, rfl⟩ := Option.map_eq_some_iff.mp stepped
    exact ⟨tabled.step lanes_eq, distributes.step lanes_eq⟩
  | encoder index encoder =>
    cases stepped
    exact ⟨tabled.keepUpdate rfl rfl rfl id (List.Subset.refl _), distributes⟩
  | fallback targets =>
    cases stepped
    exact ⟨tabled, distributes⟩

/-- No worker can go on: none has a message to push, to copy or to begin, and none would find one in
its ring. -/
def Idle (send : FanOutSend Peer) : Prop :=
  send.lanes.step .copy = none ∧ ∀ index,
    send.lanes.step (.work index) = none ∧ send.lanes.step (.begin index) = none ∧
      ∀ after ∈ send.lanes.step (.gather index 1), (after.lanes index).batch = []

/-- A lane whose worker cannot go on holds nothing. -/
theorem clear_lane {pipe : FanOutLanes Peer} {index : Nat}
    (work : pipe.step (.work index) = none) (begins : pipe.step (.begin index) = none)
    (gather : ∀ after ∈ pipe.step (.gather index 1), (after.lanes index).batch = [])
    (copied : index = 0 → pipe.copies = []) :
    (pipe.lanes index).data = [] ∧ (pipe.lanes index).batch = [] ∧
      (pipe.lanes index).worker.job = none := by
  have no_job : (pipe.lanes index).worker.job = none := by
    cases job_eq : (pipe.lanes index).worker.job with
    | none => rfl
    | some job => simp [FanOutLanes.step, FanOutLanes.workerStep, LaneWorker.step, job_eq] at work
  have no_batch : (pipe.lanes index).batch = [] := by
    cases batch_eq : (pipe.lanes index).batch with
    | nil => rfl
    | cons dispatch batch =>
      simp only [FanOutLanes.step, batch_eq, no_job] at begins
      rw [if_pos ⟨rfl, copied⟩] at begins
      cases begins
  simp only [FanOutLanes.step, no_job] at gather
  rw [if_pos ⟨no_batch, rfl, copied⟩] at gather
  exact ⟨by simpa [FanOutLanes.modifyLane] using gather, no_batch, no_job⟩

/-- A PUB socket with one lane. -/
def publisher : FanOutSend Bool :=
  start .subscriptionPrefix .block 1 8 fun _ => ⟨false, none, none, 4096, 65536, 100, none⟩

/-- A peer subscribes to everything. -/
def joinOne : List (Action Bool) :=
  [.lanes (.add true 0 false), .lanes (.notify true (.subscribe [])), .lanes (.control 0),
    .lanes (.control 0)]

end FanOutSend

end Omq
