import Omq.Tokio.TransmitSlot

/-!
# Fan-out lanes

A lane worker publishes messages to the peers of one I/O thread.  It selects the peers which
subscribed to a message, encodes the message once for all of them and pushes the encoded frame into
the transmit slot of each.  With a compression dictionary the frame of the dictionary goes first, to
the peers which do not have it.  A worker which may not drop messages waits while a slot is full,
and handles control commands meanwhile.
-/

namespace Omq

/-! ## Filters -/

inductive FanOutMode
  /-- PUB and XPUB: by prefix of the topic. -/
  | subscriptionPrefix
  | group
  deriving DecidableEq

/-- What a full slot does to a message. -/
inductive FanOutMutePolicy
  | block
  | dropNewest
  | dropOldest
  deriving DecidableEq

def FanOutMutePolicy.isLossy : FanOutMutePolicy → Bool
  | .block => false
  | _ => true

/-- The prefixes a peer subscribed to; `set` has the elements of the patricia set. -/
structure SubscriptionSet where
  set : List Bytes
  subscribeAll : Bool
  deriving DecidableEq

namespace SubscriptionSet

def new : SubscriptionSet := ⟨[], false⟩

variable (subscriptions : SubscriptionSet)

/-- Subscribe; the empty prefix stands for everything. -/
def add (topic : Bytes) : SubscriptionSet :=
  if topic = [] then { subscriptions with subscribeAll := true }
  else { subscriptions with set := subscriptions.set.insert topic }

/-- Cancel one subscription and leave the others. -/
def remove (topic : Bytes) : SubscriptionSet :=
  if topic = [] then { subscriptions with subscribeAll := false }
  else { subscriptions with set := subscriptions.set.filter (· ≠ topic) }

/-- Some subscribed prefix begins the topic. -/
def matchesTopic (topic : Bytes) : Bool :=
  subscriptions.subscribeAll || subscriptions.set.any (·.isPrefixOf topic)

end SubscriptionSet

/-- A published message with what peers are selected by. -/
structure LaneDispatch where
  msg : Message
  topic : Bytes
  group : Option (List Char)

/-- Prepare a message for publication; RADIO messages name their group. -/
def LaneDispatch.prepare (mode : FanOutMode) (message : Message) : Except Error LaneDispatch :=
  let topic := (message.parts.head?).getD []
  match mode with
  | .subscriptionPrefix => .ok ⟨message, topic, none⟩
  | .group =>
    if message.len ≠ 2 then .error (.protocol "RADIO send requires [group, body] (2 parts)")
    else if 255 < topic.length then
      .error (.protocol "RADIO group name too long (max 255 bytes)")
    else .ok ⟨message, topic, some (fromUtf8Lossy topic)⟩

theorem LaneDispatch.msg_of_prepare {mode : FanOutMode} {message : Message}
    {dispatch : LaneDispatch} (prepared : prepare mode message = .ok dispatch) :
    dispatch.msg = message := by
  simp only [prepare] at prepared
  split at prepared
  · cases prepared
    rfl
  · split_ifs at prepared
    cases prepared
    rfl

/-! ## Encoded frames -/

/-- Encoded messages, ready for several slots. -/
inductive FanOutFrame
  | arena (raw : Bytes)
  | chunks (pieces : List Bytes)

def FanOutFrame.bytes : FanOutFrame → Bytes
  | .arena raw => raw
  | .chunks pieces => pieces.flatten

/-- Message size above which payloads stay outside the arena. -/
def fanOutArenaThreshold : Nat := 4 * 1024

/-- Bytes copied into slots before chunks are shared instead. -/
def fanOutTotalCopyBudget : Nat := 8 * 1024

def fanOutMaxChunks : Nat := 1024

/-- Wire length of a message. -/
def encodedMessageLen (message : Message) : Nat :=
  message.parts.foldl (fun total part =>
    saturatingAdd (saturatingAdd total (if 255 < part.length then 9 else 2)) part.length) 0

def encodeFanOutMessage (targetCount : Nat) (eq : FrameBuffer) (message : Message) : FrameBuffer :=
  if fanOutTotalCopyBudget < saturatingMul (encodedMessageLen message) targetCount then
    eq.frameGather message
  else eq.frame message

/-- Encode messages into one frame, behind chunks an earlier frame left over.  What exceeds the
most chunks of a frame is left over in turn. -/
def buildFanOutFrame (leftover : List Bytes) (targetCount : Nat) (messages : List Message) :
    FanOutFrame × List Bytes :=
  let eq := messages.foldl (encodeFanOutMessage targetCount) (.withConfigLazy fanOutArenaThreshold)
  if leftover = [] ∧ eq.hasArenaOnly ∧ eq.arena.length * targetCount ≤ fanOutTotalCopyBudget then
    (.arena eq.arena, [])
  else
    (.chunks ((leftover ++ eq.chunks).take fanOutMaxChunks),
      (leftover ++ eq.chunks).drop fanOutMaxChunks)

def isDictShipment (message : Message) : Bool :=
  message.parts.length = 1 &&
    (message.parts.head?).any fun part => part.take 4 = sentinelLz4d || part.take 4 = zdictMagic

def takeLeadingDictShipment : List Message → Option Message × List Message
  | [] => (none, [])
  | first :: rest => if isDictShipment first then (some first, rest) else (none, first :: rest)

/-! ## The worker -/

/-- What a worker keeps of a peer: its filter and whether it has the dictionary. -/
structure LanePeer where
  subscriptions : SubscriptionSet
  groups : List (List Char)
  anyGroups : Bool
  dictShipped : Bool
  deriving DecidableEq

/-- What the socket tells a worker. -/
inductive LaneControl (Peer : Type*)
  | addPeer (peer : Peer) (anyGroups : Bool)
  | removePeer (peer : Peer)
  | subscribe (peer : Peer) (topic : Bytes)
  | cancel (peer : Peer) (topic : Bytes)
  | join (peer : Peer) (group : Bytes)
  | leave (peer : Peer) (group : Bytes)
  | setCompression (kind : CompressionKind) (options : CompressionOptions) (dict : Option Bytes)
  | shutdown

/-- Which frame of a dispatch is being pushed. -/
inductive LaneStage
  | dictionary
  | payload
  deriving DecidableEq

/-- A dispatch in progress. -/
structure LaneJob (Peer : Type*) where
  kind : Option CompressionKind
  stage : LaneStage
  /-- The dictionary which precedes the payload. -/
  shipment : Option Message
  frame : FanOutFrame
  /-- The peers which the frame of the stage still goes to. -/
  remaining : List Peer
  /-- The peers of the payload; a worker which may drop messages collects them. -/
  targets : List Peer
  /-- The encoded messages of the payload. -/
  wires : List Message
  /-- The worker waits for room in the slot of the next peer. -/
  blocked : Bool

/-- The messages which the frame of the stage encodes. -/
def LaneJob.content {Peer : Type*} (job : LaneJob Peer) : List Message :=
  match job.stage with
  | .dictionary => job.shipment.toList
  | .payload => job.wires

/-- A frame in a slot, with the messages it encodes and the compression they were encoded with. -/
structure QueuedFrame where
  kind : Option CompressionKind
  messages : List Message
  frame : FanOutFrame

structure LaneWorker (Peer : Type*) where
  mode : FanOutMode
  mutePolicy : FanOutMutePolicy
  peers : List (Peer × LanePeer)
  subscribeAllCount : Nat
  encoder : Option MessageEncoder
  leftover : List Bytes
  job : Option (LaneJob Peer)
  closed : Bool
  slots : Peer → PeerTransmitSlot
  queued : Peer → List QueuedFrame

namespace LaneWorker

variable {Peer : Type*} [DecidableEq Peer] (lane : LaneWorker Peer)

def peer? (peer : Peer) : Option LanePeer := lane.peers.lookup peer

def modifyPeer (peer : Peer) (change : LanePeer → LanePeer) : LaneWorker Peer :=
  { lane with peers := lane.peers.map fun entry =>
      if entry.1 = peer then (entry.1, change entry.2) else entry }

def modifySlot (peer : Peer) (change : PeerTransmitSlot → PeerTransmitSlot) : LaneWorker Peer :=
  { lane with slots := Function.update lane.slots peer (change (lane.slots peer)) }

/-- The options a lane builds its encoder with: it never trains. -/
def encoderOptions (options : CompressionOptions) (dict : Option Bytes) : CompressionOptions :=
  { options with
    compressionAutoTrain := false
    compressionDict := dict.or options.compressionDict }

variable [CompressionPrimitives] (lane : LaneWorker Peer)

/-- Build the encoder, unless there is one and no dictionary is given.  A dictionary which is not
valid leaves the encoder as it is. -/
def initEncoder (kind : CompressionKind) (options : CompressionOptions)
    (dict : Option Bytes) : LaneWorker Peer :=
  if lane.encoder.isNone ∨ dict.isSome then
    match MessageEncoder.build (encoderOptions options dict) 0 kind with
    | .ok encoder => { lane with encoder := some encoder }
    | .error _ => lane
  else lane

/-- Follow the socket; a peer which is added again starts without subscriptions. -/
def handleControl : LaneControl Peer → LaneWorker Peer
  | .addPeer peer anyGroups =>
    let entry := ⟨.new, [], anyGroups, (lane.slots peer).fanoutDictShipped⟩
    { lane with peers := lane.peers.filter (·.1 ≠ peer) ++ [(peer, entry)] }
  | .removePeer peer =>
    { lane with
      peers := lane.peers.filter (·.1 ≠ peer)
      subscribeAllCount := match lane.peer? peer with
        | some entry =>
          if entry.subscriptions.subscribeAll then lane.subscribeAllCount - 1
          else lane.subscribeAllCount
        | none => lane.subscribeAllCount }
  | .subscribe peer topic =>
    match lane.peer? peer with
    | some entry =>
      let subscriptions := entry.subscriptions.add topic
      { lane.modifyPeer peer fun entry => { entry with subscriptions } with
        subscribeAllCount :=
          if !entry.subscriptions.subscribeAll ∧ subscriptions.subscribeAll then
            lane.subscribeAllCount + 1
          else lane.subscribeAllCount }
    | none => lane
  | .cancel peer topic =>
    match lane.peer? peer with
    | some entry =>
      let subscriptions := entry.subscriptions.remove topic
      { lane.modifyPeer peer fun entry => { entry with subscriptions } with
        subscribeAllCount :=
          if entry.subscriptions.subscribeAll ∧ !subscriptions.subscribeAll then
            lane.subscribeAllCount - 1
          else lane.subscribeAllCount }
    | none => lane
  | .join peer group =>
    if isUtf8 group then
      lane.modifyPeer peer fun entry =>
        { entry with groups := entry.groups.insert (fromUtf8Lossy group) }
    else lane
  | .leave peer group =>
    if isUtf8 group then
      lane.modifyPeer peer fun entry =>
        { entry with groups := entry.groups.filter (· ≠ fromUtf8Lossy group) }
    else lane
  | .setCompression kind options dict => lane.initEncoder kind options dict
  | .shutdown => { lane with peers := [], subscribeAllCount := 0, job := none, closed := true }

def peerMatches (mode : FanOutMode) (entry : LanePeer) (dispatch : LaneDispatch) : Bool :=
  match mode, dispatch.group with
  | .group, some group => entry.anyGroups || entry.groups.contains group
  | .subscriptionPrefix, _ => entry.subscriptions.matchesTopic dispatch.topic
  | .group, none => false

def matching (dispatch : LaneDispatch) : List Peer :=
  let allSubscribeAll : Bool := lane.mode = .subscriptionPrefix ∧ lane.peers.length ≠ 0 ∧
    lane.subscribeAllCount = lane.peers.length
  (lane.peers.filter fun entry => (lane.slots entry.1).fanoutActive &&
    (allSubscribeAll || peerMatches lane.mode entry.2 dispatch)).map Prod.fst

def encode (message : Message) : LaneWorker Peer × Except Error (List Message) :=
  match lane.encoder with
  | some encoder =>
    ({ lane with encoder := some (encoder.encode message).1 }, (encoder.encode message).2)
  | none => (lane, .ok [message])

variable (job : LaneJob Peer)

/-- Go over to the payload of a dispatch. -/
def startPayload : LaneWorker Peer :=
  if lane.mutePolicy.isLossy ∧ job.targets = [] then { lane with job := none }
  else
    let (frame, leftover) := buildFanOutFrame lane.leftover job.targets.length job.wires
    { lane with
      leftover
      job := some { job with stage := .payload, frame, remaining := job.targets } }

def beginDispatch (dispatch : LaneDispatch) : LaneWorker Peer :=
  let peerIds := lane.matching dispatch
  if peerIds = [] then lane
  else
    let kind := lane.encoder.map MessageEncoder.kind
    match lane.encode dispatch.msg with
    | (lane, .error _) => lane
    | (lane, .ok wires) =>
      match takeLeadingDictShipment wires with
      | (some dict, wires) =>
        let (frame, leftover) := buildFanOutFrame lane.leftover peerIds.length [dict]
        { lane with
          leftover
          job := some
            { kind, stage := .dictionary, shipment := some dict, frame, remaining := peerIds
              targets := if lane.mutePolicy.isLossy then [] else peerIds
              wires, blocked := false } }
      | (none, wires) =>
        lane.startPayload
          { kind, stage := .payload, shipment := none, frame := .chunks [], remaining := []
            targets := peerIds, wires, blocked := false }

def pushFrame (policy : FanOutMutePolicy) (isProtected : Bool) (frame : FanOutFrame)
    (slot : PeerTransmitSlot) : TryFrameResult × PeerTransmitSlot :=
  match policy with
  | .dropOldest => slot.tryPushFanoutDropOldest frame.bytes isProtected
  | _ =>
    match frame with
    | .arena raw => slot.tryPushPreFramedNoSignal raw
    | .chunks pieces => slot.tryPushEncoded pieces

omit [CompressionPrimitives] in
/-- A worker which does not drop old messages only adds the frame, if there is room. -/
theorem answered_pushFrame (policy : FanOutMutePolicy) (keeps : policy ≠ .dropOldest)
    (isProtected : Bool) (frame : FanOutFrame) (slot : PeerTransmitSlot) :
    slot.Answered (match frame with
      | .arena raw => slot.eq.pushPreFramed raw
      | .chunks pieces => slot.eq.pushSharedChunks pieces)
      (pushFrame policy isProtected frame slot) := by
  fun_cases pushFrame policy isProtected frame slot with
  | case1 => exact absurd rfl keeps
  | case2 => exact slot.answered_tryPushPreFramedNoSignal _
  | case3 => exact slot.answered_tryPushEncoded _

variable (peer : Peer)

/-- Record that the dictionary was pushed to a peer.  A worker which drops old messages leaves that
to the slot. -/
def markDict : LaneWorker Peer :=
  if lane.mutePolicy = .dropOldest then lane
  else (lane.modifyPeer peer fun entry => { entry with dictShipped := true }).modifySlot peer
    PeerTransmitSlot.markFanoutDictShipped

/-- Whether the frame of the stage goes to a peer. -/
def wants (entry : LanePeer) : Bool :=
  match job.stage with
  | .dictionary =>
    if lane.mutePolicy.isLossy then !(lane.slots peer).fanoutDictQueuedOrShipped
    else !entry.dictShipped
  | .payload => lane.mutePolicy.isLossy || job.shipment.isNone || entry.dictShipped

/-- The next peer of a dispatch is done; a worker which may drop messages sends the payload only to
peers which have the dictionary. -/
def advance (rest : List Peer) (ready : Bool) : LaneWorker Peer :=
  let collects : Bool := job.stage = .dictionary ∧ lane.mutePolicy.isLossy ∧ ready
  { lane with job := some { job with
      remaining := rest
      targets := if collects then job.targets ++ [peer] else job.targets
      blocked := false } }

def pushNext (rest : List Peer) : LaneWorker Peer :=
  match lane.peer? peer with
  | none => lane.advance job peer rest false
  | some entry =>
    if !lane.wants job peer entry then lane.advance job peer rest true
    else
      let dictionary : Bool := job.stage = .dictionary
      let (result, slot) := pushFrame lane.mutePolicy dictionary job.frame (lane.slots peer)
      let pushed := lane.modifySlot peer fun _ => slot
      match result with
      | .ok =>
        let pushed := { pushed with
          queued := Function.update lane.queued peer
            (lane.queued peer ++ [QueuedFrame.mk job.kind job.content job.frame]) }
        (if dictionary then pushed.markDict peer else pushed).advance job peer rest true
      | .full =>
        match lane.mutePolicy with
        | .block => { pushed with job := some { job with blocked := true } }
        | .dropNewest =>
          (pushed.modifySlot peer PeerTransmitSlot.deactivateFanout).advance job peer rest false
        | .dropOldest => pushed.advance job peer rest false
      | _ => pushed.advance job peer rest false

/-- The next step of a dispatch. -/
def continueJob : LaneWorker Peer :=
  match job.remaining with
  | peer :: rest => lane.pushNext job peer rest
  | [] =>
    match job.stage with
    | .dictionary => lane.startPayload job
    | .payload => { lane with job := none }

/-- What the driver of a peer does to its slot. -/
inductive SlotChange
  | drainArena
  | drain (maxChunks : Nat)
  | die

def SlotChange.apply : SlotChange → PeerTransmitSlot → PeerTransmitSlot
  | .drainArena, slot => (slot.tryDrainArenaOnly).elim slot fun drained => drained.2.2
  | .drain maxChunks, slot => (slot.drain maxChunks).2.2
  | .die, slot => slot.markDead

inductive Action (Peer : Type*)
  | control (command : LaneControl Peer)
  | dispatch (message : Message)
  /-- The dispatch in progress goes on. -/
  | work
  | slot (peer : Peer) (change : SlotChange)
  /-- The map of the peers yields them in another order. -/
  | reorder (peers : List (Peer × LanePeer))

def step : Action Peer → Option (LaneWorker Peer)
  | .control command =>
    -- Within a dispatch commands are handled only while the worker waits for a slot.
    if !lane.closed ∧ lane.job.all LaneJob.blocked then some (lane.handleControl command)
    else none
  | .dispatch message =>
    if !lane.closed ∧ lane.job.isNone then
      match LaneDispatch.prepare lane.mode message with
      | .ok dispatch => some (lane.beginDispatch dispatch)
      | .error _ => none
    else none
  | .work =>
    match lane.job with
    | some job => some (lane.continueJob job)
    | none => none
  | .slot peer change => some (lane.modifySlot peer change.apply)
  | .reorder peers =>
    if peers.Perm lane.peers ∧ (peers.map Prod.fst).Nodup then some { lane with peers } else none

variable {lane} {after : LaneWorker Peer}

theorem step_control {command : LaneControl Peer}
    (stepped : lane.step (.control command) = some after) : lane.handleControl command = after :=
  (Option.ite_some_none_eq_some.mp stepped).2

theorem step_reorder {peers : List (Peer × LanePeer)}
    (stepped : lane.step (.reorder peers) = some after) :
    (peers.Perm lane.peers ∧ (peers.map Prod.fst).Nodup) ∧ { lane with peers } = after :=
  Option.ite_some_none_eq_some.mp stepped

theorem step_work (stepped : lane.step .work = some after) :
    ∃ job, lane.job = some job ∧ lane.continueJob job = after := by
  cases job_eq : lane.job with
  | none => simp [step, job_eq] at stepped
  | some job => exact ⟨job, rfl, by simpa [step, job_eq] using stepped⟩

end LaneWorker

end Omq
