import Omq.Tokio.FanOut.Exact
import Omq.Tokio.Routing.FanOut

/-!
# Peers outside the lanes

The socket itself gives a message to a peer outside the lanes.  The message goes to the inbox of the
driver or into the transmit slot of the peer, which depends on how many peers the message is for; a
peer which has no room does not get it.
-/

namespace Omq

open PeerOutbound Transition List FanOutSubmitter LaneDispatch

/-! ## A socket which drops nothing -/

/-- A publisher under the policy which drops nothing: its lanes, and its table of peers. -/
structure FanOutSocket where
  lanes : FanOutLanes Nat
  peers : List (Nat × FanOutPeer)
  leftover : List Bytes
  /-- Messages of sends which wait for the ring of the first lane. -/
  waiting : List Message

namespace FanOutSocket

def start (mode : FanOutMode) (laneCount pipeCap : Nat) (setups : Nat → LaneWorker.SlotSetup) :
    FanOutSocket :=
  ⟨.start mode .block laneCount pipeCap setups, [], [], []⟩

variable (socket : FanOutSocket)

/-- What a send reads: the counters count the table, and the ring is that of the first lane. -/
def submitter : FanOutSubmitter where
  mode := socket.lanes.mode
  mutePolicy := .block
  peers := socket.peers
  subscribeAllCount := socket.peers.countP (·.2.subscriptions.subscribeAll)
  fallbackPeerCount := socket.peers.countP (·.2.lane.isNone)
  lanePeerCount := socket.peers.countP (·.2.lane.isSome)
  distributor := ⟨⟨socket.lanes.pipeCap, (socket.lanes.lanes 0).data.map .dispatch, false⟩, none⟩
  leftover := socket.leftover

variable (dispatch : LaneDispatch)

/-- The socket after the peers outside the lanes were given a message. -/
def give (env : Environment) : FanOutSocket :=
  let after := socket.submitter.given dispatch env
  { socket with peers := after.peers, leftover := after.leftover }

/-- The message is for this peer outside the lanes. -/
def Wanted (peer : FanOutPeer) : Prop :=
  peer.lane = none ∧ peer.fanoutActive = true ∧ LaneWorker.peerMatches socket.lanes.mode
    ⟨peer.subscriptions, peer.groups, peer.anyGroups, false⟩ dispatch = true

/-- The counters select the peers which the message is for. -/
theorem selects_iff {entry : Nat × FanOutPeer} (member : entry ∈ socket.peers) :
    socket.submitter.selects dispatch entry.2 = true ↔ socket.Wanted dispatch entry.2 := by
  have shortcut (prefixed : socket.lanes.mode = .subscriptionPrefix)
      (all : socket.peers.countP (·.2.subscriptions.subscribeAll) = socket.peers.length) :
      LaneWorker.peerMatches socket.lanes.mode
        ⟨entry.2.subscriptions, entry.2.groups, entry.2.anyGroups, false⟩ dispatch = true := by
    have everything := countP_eq_length.mp all entry member
    simp [LaneWorker.peerMatches, prefixed, SubscriptionSet.matchesTopic, everything]
  simp only [selects, submitter, Wanted, Bool.and_eq_true, Bool.or_eq_true,
    Option.isNone_iff_eq_none, and_assoc]
  refine and_congr_right fun _ => and_congr_right fun _ => or_iff_right_of_imp ?_
  exact fun all => shortcut (of_decide_eq_true all).1 (of_decide_eq_true all).2.2

/-- The peer's connection is there. -/
def Alive : PeerOutbound → Prop
  | .wire peer => peer.slot.dead = false ∧ peer.inbox.closed = false
  | .inbox channel => channel.closed = false

/-- Every live peer outside the lanes which the message is for was queued it.  What several slots
were given is the whole message. -/
def Given (after : FanOutSocket) : Prop :=
  (∀ frame ∈ (socket.submitter.sharedFrame dispatch).1,
    frame.bytes = encodeMessageFlat dispatch.msg) ∧
  Forall₂ (fun before given => socket.Wanted dispatch before.2 → Alive before.2.target →
      ∃ queue, given.2.target.queues = enqueue dispatch.msg before.2.target.queues (some queue))
    socket.peers after.peers

/-- Every live peer outside the lanes which the message is for has room. -/
def Roomy : Prop :=
  ∀ entry ∈ socket.peers, socket.Wanted dispatch entry.2 → Alive entry.2.target →
    (entry.2.target.offered (socket.submitter.sharedFrame dispatch).1 .block
      dispatch.msg).isSome = true

theorem enqueue_eq_iff (message : Message) (queues : List Message × List Message)
    (choice : Option OutboundQueue) :
    (∃ queue, enqueue message queues choice = enqueue message queues (some queue)) ↔
      choice.isSome = true := by
  cases choice with
  | some queue => exact iff_of_true ⟨queue, rfl⟩ rfl
  | none =>
    refine iff_of_false ?_ nofun
    rintro ⟨_ | _, same⟩ <;> simp [enqueue, Prod.ext_iff] at same

theorem forall₂_iff_of_related {α β : Type*} {related property : α → β → Prop}
    {condition : α → Prop}
    {before : List α} {after : List β} (all : List.Forall₂ related before after)
    (same : ∀ entry ∈ before, ∀ given, related entry given →
      (property entry given ↔ condition entry)) :
    List.Forall₂ property before after ↔ ∀ entry ∈ before, condition entry := by
  induction all with
  | nil => simp
  | cons head _ induction =>
    rw [forall_mem_cons] at same
    rw [forall₂_cons, forall_mem_cons, same.1 _ head, induction same.2]

theorem given_give_iff {dispatch : LaneDispatch} (short : dispatch.msg.len < 512)
    (nothing : socket.leftover = []) (env : Environment) :
    socket.Given dispatch (socket.give dispatch env) ↔ socket.Roomy dispatch := by
  unfold Given Roomy give given
  rw [and_iff_right (sharedFrame_of_short short nothing).1]
  split_ifs with nobody
  · have on_lanes : ∀ entry ∈ socket.peers, ¬socket.Wanted dispatch entry.2 := by
      intro entry member wanted
      exact countP_eq_zero.mp nobody entry member (by simp [wanted.1])
    refine iff_of_true ?_ fun entry member wanted => absurd wanted (on_lanes entry member)
    exact forall₂_same.mpr fun entry member wanted => absurd wanted (on_lanes entry member)
  · refine forall₂_iff_of_related (forall₂_giveAll ..) ?_
    rintro entry member given ⟨drawn, rfl⟩
    refine imp_congr_right fun wanted => imp_congr_right fun _ => ?_
    rw [if_pos ((socket.selects_iff dispatch member).mpr wanted), FanOutPeer.queues_give]
    exact enqueue_eq_iff ..

/-- Lanes which take a message had room. -/
theorem room_of_dispatchToLanes {submitter : FanOutSubmitter} {dispatch : LaneDispatch}
    {capacity : Nat} {waiting : List LaneDispatch} (blocking : submitter.mutePolicy = .block)
    (ring : submitter.distributor = ⟨⟨capacity, waiting.map .dispatch, false⟩, none⟩)
    (accepted : (submitter.dispatchToLanes dispatch true).1 = .sent) :
    waiting.length < capacity := by
  by_contra full
  simp [dispatchToLanes, LaneDistributor.tryDispatch, ring,
    LaneDistributor.tryPushPendingCompression, blocking, FanOutMutePolicy.isLossy, Channel.push,
    Channel.hasRoom, full] at accepted

variable {socket} {message : Message} {dispatch : LaneDispatch}

/-- A message was offered to the peers outside the lanes.  If it was accepted, the ring had room for
it when the lanes have peers. -/
theorem trySend_spec (prepared : prepare socket.lanes.mode message = .ok dispatch)
    (env : Environment) :
    (socket.submitter.trySend message env).2.1.peers = (socket.give dispatch env).peers ∧
      (socket.submitter.trySend message env).2.1.leftover = (socket.give dispatch env).leftover ∧
      ((socket.submitter.trySend message env).1 = .sent → socket.submitter.served = true →
        (socket.lanes.lanes 0).data.length < socket.lanes.pipeCap) := by
  obtain ⟨_, sent⟩ := socket.submitter.trySend_eq prepared env
  obtain ⟨policy_eq, ring_eq⟩ := socket.submitter.policy_given dispatch env
  rw [sent]
  refine ⟨(frame_dispatchToLanes ..).1, (frame_dispatchToLanes ..).2, fun accepted served => ?_⟩
  rw [served] at accepted
  exact room_of_dispatchToLanes policy_eq ring_eq accepted

/-- Steps of senders, of the lanes, and of everything else which changes the table. -/
inductive Action
  | trySend (message : Message) (env : Environment)
  /-- A send gives its message to the peers outside the lanes, and then waits for the lanes. -/
  | send (message : Message) (env : Environment)
  /-- A send which waits finds room in the ring of the first lane, and returns. -/
  | resume (index : Nat)
  | lanes (action : FanOutLanes.Action Nat)
  /-- A lane is told to compress. -/
  | setCompression (lane : Nat) (encoder : MessageEncoder)
  /-- Peers come, go and subscribe, and drivers take messages. -/
  | table (peers : List (Nat × FanOutPeer))

variable [CompressionPrimitives]

def step (socket : FanOutSocket) : Action → Option FanOutSocket
  | .trySend message env =>
    match socket.submitter.trySend message env with
    | (.sent, after, _) =>
      (if socket.submitter.served then socket.lanes.step (.dispatch message)
        else some socket.lanes).map fun lanes =>
          { socket with lanes, peers := after.peers, leftover := after.leftover }
    | (_, after, _) => some { socket with peers := after.peers, leftover := after.leftover }
  | .send message env =>
    match prepare socket.lanes.mode message with
    | .error _ => none
    | .ok dispatch => some { socket.give dispatch env with
        waiting := socket.waiting ++ if socket.submitter.served then [message] else [] }
  | .resume index =>
    match socket.waiting[index]? with
    | none => none
    | some message => (socket.lanes.step (.dispatch message)).map fun lanes =>
        { socket with lanes, waiting := socket.waiting.eraseIdx index }
  | .lanes action => (socket.lanes.step action).map fun lanes => { socket with lanes }
  | .setCompression index encoder => some { socket with
      lanes := socket.lanes.modifyLane index fun lane =>
        { lane with worker := { lane.worker with encoder := some encoder } } }
  | .table peers => some { socket with peers }

/-- No message is cut into pieces or taken for a dictionary, and no lane compresses. -/
def SendsPlain (socket : FanOutSocket) : Action → Prop
  | .trySend message _ | .send message _ => message.Plain
  | .lanes action => socket.lanes.DispatchesPlain action
  | .setCompression .. => False
  | _ => True

/-- What holds in every state. -/
structure Sound (socket : FanOutSocket) : Prop where
  lanes : socket.lanes.Sound
  whole : socket.leftover = []
  waiting : ∀ message ∈ socket.waiting, message.Plain

omit [CompressionPrimitives] in
theorem leftover_trySend (plain : message.Plain) (whole : socket.leftover = [])
    (env : Environment) : (socket.submitter.trySend message env).2.1.leftover = [] := by
  cases prepared : prepare socket.lanes.mode message with
  | error error =>
    rw [FanOutSubmitter.trySend, show prepare socket.submitter.mode message = _ from prepared]
    exact whole
  | ok dispatch =>
    rw [(trySend_spec prepared env).2.1]
    exact leftover_given ((msg_of_prepare prepared).symm ▸ plain.1) whole env

theorem Sound.step {after : FanOutSocket} {action : Action} (plain : socket.SendsPlain action)
    (stepped : socket.step action = some after) (sound : socket.Sound) : after.Sound := by
  obtain ⟨lanes_sound, whole, waiting⟩ := sound
  revert stepped plain
  fun_cases socket.step action <;> intro plain stepped
  case case1 message env _ _ tried =>
    have left := leftover_trySend plain whole env
    rw [tried] at left
    obtain ⟨lanes, lanes_eq, rfl⟩ := Option.map_eq_some_iff.mp stepped
    split_ifs at lanes_eq
    · exact ⟨lanes_sound.step (show socket.lanes.DispatchesPlain (.dispatch message) from plain)
        lanes_eq, left, waiting⟩
    · cases lanes_eq
      exact ⟨lanes_sound, left, waiting⟩
  case case2 message env _ _ _ _ tried =>
    have left := leftover_trySend plain whole env
    rw [tried] at left
    cases stepped
    exact ⟨lanes_sound, left, waiting⟩
  case case4 message env dispatch prepared =>
    cases stepped
    refine ⟨lanes_sound, leftover_given ((msg_of_prepare prepared).symm ▸ plain.1) whole env, ?_⟩
    intro other member
    rcases mem_append.mp member with old | new
    · exact waiting other old
    · split_ifs at new
      · exact mem_singleton.mp new ▸ plain
      · cases new
  case case6 index message waits =>
    obtain ⟨lanes, lanes_eq, rfl⟩ := Option.map_eq_some_iff.mp stepped
    have plain : socket.lanes.DispatchesPlain (.dispatch message) :=
      waiting message (mem_of_getElem? waits)
    exact ⟨lanes_sound.step plain lanes_eq, whole,
      fun other member => waiting other ((eraseIdx_sublist ..).subset member)⟩
  case case7 =>
    obtain ⟨lanes, lanes_eq, rfl⟩ := Option.map_eq_some_iff.mp stepped
    exact ⟨lanes_sound.step plain lanes_eq, whole, waiting⟩
  all_goals cases stepped
  · exact plain.elim
  · exact ⟨lanes_sound, whole, waiting⟩

/-- What a dispatch to the lanes does. -/
theorem dispatched_of_step {lanes after : FanOutLanes Nat}
    (stepped : lanes.step (.dispatch message) = some after) :
    ∃ dispatch, prepare lanes.mode message = .ok dispatch ∧
      after.dispatched = lanes.dispatched ++ [dispatch] := by
  simp only [FanOutLanes.step] at stepped
  split at stepped
  · cases stepped
  next dispatch prepared =>
    obtain ⟨_, rfl⟩ := Option.ite_some_none_eq_some.mp stepped
    exact ⟨dispatch, prepared, rfl⟩

/-- In every state which is reached, the lanes deliver exactly to every registered peer whose slot
works.  A message which is accepted reaches the lanes if they have peers, and it is queued to every
live peer outside the lanes which it is for exactly when each of these has room.  A send returns
when the lanes have taken its message. -/
theorem accepted_queued_iff {mode : FanOutMode} {laneCount pipeCap : Nat}
    {setups : Nat → LaneWorker.SlotSetup} {socket : FanOutSocket}
    (runs : Runs step SendsPlain (start mode laneCount pipeCap setups) socket) {message : Message}
    {dispatch : LaneDispatch} (prepared : prepare socket.lanes.mode message = .ok dispatch)
    (short : message.len < 512) (env : Environment) :
    (∀ entry ∈ socket.lanes.registered,
      ((socket.lanes.lanes entry.lane).worker.slots entry.peer).dead = false →
        socket.lanes.DeliversTo entry) ∧
    ((socket.submitter.trySend message env).1 = .sent →
      ∃ after, socket.step (.trySend message env) = some after ∧
        after.lanes.dispatched = socket.lanes.dispatched ++
          (if socket.submitter.served then [dispatch] else []) ∧
        (socket.Given dispatch after ↔ socket.Roomy dispatch)) ∧
    (∃ after, socket.step (.send message env) = some after ∧
      after.waiting = socket.waiting ++ (if socket.submitter.served then [message] else []) ∧
      (socket.Given dispatch after ↔ socket.Roomy dispatch)) ∧
    ∀ index after, socket.step (.resume index) = some after →
      ∃ waits dispatch, socket.waiting[index]? = some waits ∧
        prepare socket.lanes.mode waits = .ok dispatch ∧
        after.lanes.dispatched = socket.lanes.dispatched ++ [dispatch] ∧
        after.waiting = socket.waiting.eraseIdx index := by
  have sound : socket.Sound := runs.invariant Sound.step
    ⟨.start mode laneCount pipeCap setups, rfl, nofun⟩
  have short : dispatch.msg.len < 512 := (msg_of_prepare prepared).symm ▸ short
  have gave := socket.given_give_iff short sound.whole env
  refine ⟨fun _ => sound.lanes.deliversTo, fun accepted => ?_, ?_, fun index after stepped => ?_⟩
  · obtain ⟨peers_eq, -, room⟩ := trySend_spec prepared env
    have room := room accepted
    rcases tried : socket.submitter.trySend message env with ⟨result, after, drawn⟩
    rw [tried] at accepted peers_eq
    subst accepted
    unfold Given at gave ⊢
    rw [← peers_eq] at gave
    simp only [step, tried]
    by_cases served : socket.submitter.served = true
    · obtain ⟨lanes, pushed, grown⟩ : ∃ lanes, socket.lanes.step (.dispatch message) = some lanes ∧
          lanes.dispatched = socket.lanes.dispatched ++ [dispatch] := by
        simp only [FanOutLanes.step, prepared]
        rw [if_pos (room served)]
        exact ⟨_, rfl, rfl⟩
      simp only [served, if_true, pushed, Option.map_some]
      exact ⟨_, rfl, grown, gave⟩
    · simp only [served, Bool.false_eq_true, if_false, Option.map_some, append_nil]
      exact ⟨_, rfl, rfl, gave⟩
  · simp only [step, prepared]
    exact ⟨_, rfl, rfl, gave⟩
  · simp only [step] at stepped
    split at stepped
    · cases stepped
    next waits found =>
      obtain ⟨lanes, lanes_eq, rfl⟩ := Option.map_eq_some_iff.mp stepped
      obtain ⟨dispatch, prepared, grown⟩ := dispatched_of_step lanes_eq
      exact ⟨waits, dispatch, found, prepared, grown, rfl⟩

/-- A peer on a plain stream without a direct writer. -/
def plainPeer (topics : SubscriptionSet) (msgCap : Nat) : FanOutPeer :=
  ⟨topics, [], false, .wire ⟨.new false none none 4096 65536 msgCap none, .new 64, none, []⟩, none,
    true⟩

/-- Two peers outside the lanes which subscribed to everything, with room for one message each. -/
def twoPeers : List (Nat × FanOutPeer) :=
  [(0, plainPeer ⟨[], true⟩ 1), (1, plainPeer ⟨[], true⟩ 1)]

def empty : FanOutSocket :=
  start .subscriptionPrefix 1 8 fun _ => ⟨false, none, none, 4096, 65536, 100, none⟩

omit [CompressionPrimitives] in
theorem accepted_queued_room : ∃ socket dispatch,
    Runs (@step .storing) SendsPlain empty socket ∧
      prepare socket.lanes.mode (.ofSingle [9]) = .ok dispatch ∧
      (socket.submitter.trySend (.ofSingle [9]) .zero).1 = .sent ∧
      ∃ after, @step .storing socket (.trySend (.ofSingle [9]) .zero) = some after ∧
        (socket.Given dispatch after ↔ socket.Roomy dispatch) := by
  have runs : Runs (@step .storing) SendsPlain empty { empty with peers := twoPeers } :=
    .single (.table twoPeers) trivial rfl
  obtain ⟨after, stepped, _, given_iff⟩ :=
    (@accepted_queued_iff .storing _ _ _ _ _ runs (.ofSingle [9]) _ rfl (by decide) .zero).2.1 rfl
  exact ⟨_, _, runs, rfl, rfl, after, stepped, given_iff⟩

omit [CompressionPrimitives] in
/-- Both slots are full: the second message is accepted, and the live peers do not get it. -/
theorem full_peer_skipped : ∃ socket after dispatch,
    Reaches (@step .storing) empty socket ∧
      prepare socket.lanes.mode (.ofSingle [9]) = .ok dispatch ∧
      (socket.submitter.trySend (.ofSingle [9]) .zero).1 = .sent ∧
      @step .storing socket (.trySend (.ofSingle [9]) .zero) = some after ∧
      (∀ entry ∈ socket.peers, socket.Wanted dispatch entry.2 ∧ Alive entry.2.target) ∧
      after.peers.map (·.2.target.queues) = socket.peers.map (·.2.target.queues) ∧
      ¬socket.Given dispatch after := by
  have ran : run (@step .storing) [.table twoPeers, .trySend (.ofSingle [7]) .zero] empty =
    some _ := rfl
  refine ⟨_, _, _, .of_run ran, rfl, rfl, rfl, ?_, rfl, ?_⟩
  · rintro entry (_ | ⟨_, _ | ⟨_, ⟨⟩⟩⟩) <;> exact ⟨⟨rfl, rfl, rfl⟩, rfl, rfl⟩
  · rintro ⟨_, _ | ⟨queued, _⟩⟩
    obtain ⟨_ | _, same⟩ := queued ⟨rfl, rfl, rfl⟩ ⟨rfl, rfl⟩ <;> cases same

end FanOutSocket

/-! ## The order of the messages of one peer -/

structure FallbackPeer where
  submitter : FanOutSubmitter
  id : Nat
  peer : FanOutPeer
  sent : List Message
  waiting : List Message
  wire : List Message

namespace PeerOutbound

/-- The outlet after its driver did something to the slot. -/
def modifySlot (change : PeerTransmitSlot → PeerTransmitSlot) : PeerOutbound → PeerOutbound
  | .wire peer => .wire { peer with slot := change peer.slot }
  | .inbox channel => .inbox channel

/-- The outlet after its driver took a message out of the inbox. -/
def dropLetter : PeerOutbound → PeerOutbound
  | .wire peer => .wire { peer with inbox := { peer.inbox with items := peer.inbox.items.tail } }
  | .inbox channel => .inbox { channel with items := channel.items.tail }

theorem queues_modifySlot (change : PeerTransmitSlot → PeerTransmitSlot) (target : PeerOutbound) :
    (target.modifySlot change).queues = target.queues := by
  cases target <;> rfl

theorem queues_dropLetter (target : PeerOutbound) :
    target.dropLetter.queues = (target.queues.1, target.queues.2.tail) := by
  cases target <;> rfl

end PeerOutbound

namespace FallbackPeer

open FanOutSocket (plainPeer)

def start (submitter : FanOutSubmitter) (id : Nat) (peer : FanOutPeer) : FallbackPeer :=
  ⟨submitter, id, peer, [], [], []⟩

variable (line : FallbackPeer)

def letters : List Message := line.peer.target.queues.2

def socket : FanOutSubmitter :=
  { line.submitter with peers := (line.id, line.peer) :: line.submitter.peers }

variable (dispatch : LaneDispatch)

def takes : Option OutboundQueue :=
  if line.socket.selects dispatch line.peer then
    line.peer.target.offered (line.socket.sharedFrame dispatch).1 line.socket.mutePolicy
      dispatch.msg
  else none

/-- The line after the peers of the socket were given a message. -/
def send (env : Environment) : FallbackPeer :=
  let after := (line.socket.dispatchToTargets dispatch env).1
  match after.peers with
  | [] => line
  | (id, peer) :: others =>
    let slotted := peer.target.queues.1.drop line.peer.target.queues.1.length
    let lettered := peer.target.queues.2.drop line.peer.target.queues.2.length
    ⟨{ after with peers := others }, id, peer, line.sent ++ slotted ++ lettered,
      line.waiting ++ slotted, line.wire⟩

/-- Steps of the socket and of the driver of the peer. -/
inductive Action
  | send (message : Message) (env : Environment)
  /-- Other peers come, go and change, and this one subscribes. -/
  | others (submitter : FanOutSubmitter) (subscriptions : SubscriptionSet)
      (groups : List (List Char))
  /-- The driver takes a message out of the inbox. -/
  | takeLetter
  | takeSlot (count : Nat) (change : LaneWorker.SlotChange)
  /-- The slot calls back after a drain made room: a peer which was skipped is served again. -/
  | reactivate
  /-- Old messages in the slot are dropped for new ones. -/
  | forget (kept : List Message)

def step : Action → Option FallbackPeer
  | .send message env =>
    match prepare line.submitter.mode message with
    | .error _ => none
    | .ok dispatch => some (line.send dispatch env)
  | .others submitter subscriptions groups =>
    some { line with submitter, peer := { line.peer with subscriptions, groups } }
  | .takeLetter =>
    match line.letters with
    | [] => none
    | message :: _ => some { line with
        peer := { line.peer with target := line.peer.target.dropLetter }
        wire := line.wire ++ [message] }
  | .takeSlot count change => some { line with
      peer := { line.peer with target := line.peer.target.modifySlot change.apply }
      waiting := line.waiting.drop count
      wire := line.wire ++ line.waiting.take count }
  -- at any time: the callback runs after the drain has let go of the slot
  | .reactivate => some { line with peer := { line.peer with fanoutActive := true } }
  | .forget kept => if kept.Sublist line.waiting then some { line with waiting := kept } else none

/-- A message goes into a queue of the peer only while the other one is empty. -/
def OneQueue : Action → Prop
  | .send message _ => ∀ dispatch, prepare line.submitter.mode message = .ok dispatch →
      (line.takes dispatch = some .slot → line.letters = []) ∧
        (line.takes dispatch = some .inbox → line.waiting = [])
  | _ => True

/-- What is written, and what waits, was sent in this order. -/
structure Ordered (line : FallbackPeer) : Prop where
  sent : (line.wire ++ line.waiting ++ line.letters).Sublist line.sent
  single : line.waiting = [] ∨ line.letters = []

theorem send_eq (env : Environment) :
    (line.send dispatch env).wire = line.wire ∧
      (line.send dispatch env).sent =
        line.sent ++ (if (line.takes dispatch).isSome then [dispatch.msg] else []) ∧
      ((line.send dispatch env).waiting, (line.send dispatch env).letters) =
        enqueue dispatch.msg (line.waiting, line.letters) (line.takes dispatch) := by
  have gave := forall₂_giveAll (line.socket.selects dispatch)
    (line.socket.sharedFrame dispatch).1 line.socket.mutePolicy dispatch.msg line.socket.peers env
  unfold send
  simp only [dispatchToTargets]
  generalize (giveAll (line.socket.selects dispatch)
    (line.socket.sharedFrame dispatch).1 line.socket.mutePolicy dispatch.msg line.socket.peers
    env).1 = peers at gave ⊢
  obtain _ | ⟨queues_eq, _⟩ := gave
  rename_i after others _
  obtain ⟨id, peer⟩ := after
  have queues_eq : peer.target.queues =
      enqueue dispatch.msg line.peer.target.queues (line.takes dispatch) := by
    obtain ⟨drawn, given⟩ := queues_eq
    obtain rfl := congrArg Prod.snd given
    rw [takes]
    split_ifs
    · exact FanOutPeer.queues_give ..
    · rfl
  simp only [letters, queues_eq]
  cases line.takes dispatch with
  | none => simp [enqueue]
  | some queue => cases queue <;> simp [enqueue]

theorem Ordered.step {line after : FallbackPeer} {action : Action} (one : line.OneQueue action)
    (stepped : line.step action = some after) (ordered : line.Ordered) : after.Ordered := by
  obtain ⟨sent, single⟩ := ordered
  cases action with
  | send message env =>
    simp only [FallbackPeer.step] at stepped
    split at stepped
    · cases stepped
    next dispatch prepared =>
      cases stepped
      obtain ⟨wire_eq, sent_eq, queues_eq⟩ := line.send_eq dispatch env
      obtain ⟨slot, inbox⟩ := one dispatch prepared
      generalize line.send dispatch env = after at *
      cases queue_eq : line.takes dispatch with
      | none =>
        simp only [queue_eq, enqueue, Prod.mk.injEq] at queues_eq
        refine ⟨?_, by rwa [queues_eq.1, queues_eq.2]⟩
        rw [wire_eq, sent_eq, queues_eq.1, queues_eq.2, queue_eq]
        simpa using sent
      | some queue =>
        cases queue with
        | slot =>
          have no_letters := slot queue_eq
          simp only [queue_eq, enqueue, Prod.mk.injEq, no_letters] at queues_eq
          refine ⟨?_, .inr queues_eq.2⟩
          rw [wire_eq, sent_eq, queues_eq.1, queues_eq.2, queue_eq]
          simpa [no_letters, ← append_assoc] using sent.append_right [dispatch.msg]
        | inbox =>
          have nothing := inbox queue_eq
          simp only [queue_eq, enqueue, Prod.mk.injEq, nothing] at queues_eq
          refine ⟨?_, .inl queues_eq.1⟩
          rw [wire_eq, sent_eq, queues_eq.1, queues_eq.2, queue_eq]
          simpa [nothing, ← append_assoc] using sent.append_right [dispatch.msg]
  | others | reactivate =>
    cases stepped
    exact ⟨sent, single⟩
  | takeLetter =>
    simp only [FallbackPeer.step] at stepped
    split at stepped
    · cases stepped
    next message rest letters_eq =>
      cases stepped
      have nothing : line.waiting = [] := single.resolve_right (by simp [letters_eq])
      refine ⟨?_, .inl nothing⟩
      simp only [letters] at letters_eq
      simpa [letters, queues_dropLetter, letters_eq, nothing] using sent
  | takeSlot count change =>
    cases stepped
    refine ⟨?_, ?_⟩
    · rw [← take_append_drop count line.waiting] at sent
      simpa [letters, queues_modifySlot] using sent
    · rw [letters, queues_modifySlot]
      exact single.imp_left fun nothing => by simp [nothing]
  | forget kept =>
    obtain ⟨fewer, rfl⟩ := Option.ite_some_none_eq_some.mp stepped
    refine ⟨((fewer.append_left _).append_right _).trans sent, single.imp_left fun nothing => ?_⟩
    exact sublist_nil.mp (nothing ▸ fewer)

/-- The peer wants two topics, another one only the second of them. -/
def twoTopics : FallbackPeer :=
  start ⟨.subscriptionPrefix, .block, [(1, plainPeer ⟨[[2]], false⟩ 100)], 0, 2, 0, ⟨.new 8, none⟩,
    []⟩ 0 (plainPeer ⟨[[1], [2]], false⟩ 100)

instance (line : FallbackPeer) : (action : Action) → Decidable (line.OneQueue action)
  | .send message _ =>
    match prepared : prepare line.submitter.mode message with
    | .ok dispatch => decidable_of_iff ((line.takes dispatch = some .slot → line.letters = []) ∧
        (line.takes dispatch = some .inbox → line.waiting = [])) (by
          simp only [OneQueue, prepared, Except.ok.injEq, forall_eq'])
    | .error _ => .isTrue (by simp [OneQueue, prepared])
  | .others .. | .takeLetter | .takeSlot .. | .reactivate | .forget _ => .isTrue trivial

end FallbackPeer

end Omq
