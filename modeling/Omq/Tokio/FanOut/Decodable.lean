import Omq.Tokio.FanOut.Dictionary

/-!
# What a lane queues can be decoded

Whether a slot has the dictionary tells what a decoder of its frames holds.  A dispatch keeps this
when it ships the dictionary, or when every peer it goes to has it.
-/

namespace Omq

open PeerTransmitSlot Function Transition List MessageDecoder

namespace LaneWorker

section

variable {Peer : Type*} [DecidableEq Peer]

/-! ## Entries of peers -/

theorem lookup_cons_ite (other peer : Peer) (value : LanePeer) (rest : List (Peer × LanePeer)) :
    ((other, value) :: rest).lookup peer =
      if peer = other then some value else rest.lookup peer := by
  rw [lookup_cons]
  by_cases same : peer = other
  · simp [same]
  · simp [same, beq_false_of_ne same]

section

variable {peers : List (Peer × LanePeer)} {entry : LanePeer} {peer : Peer}

theorem lookup_eq_none (absent : peer ∉ peers.map Prod.fst) : peers.lookup peer = none := by
  rw [lookup_eq_none_iff]
  intro entry member
  simpa using fun same : peer = entry.1 => absent (same ▸ mem_map_of_mem member)

theorem mem_iff_lookup (unique : (peers.map Prod.fst).Nodup) :
    (peer, entry) ∈ peers ↔ peers.lookup peer = some entry := by
  induction peers with
  | nil => simp
  | cons head rest induction =>
    obtain ⟨other, value⟩ := head
    rw [map_cons, nodup_cons] at unique
    rw [lookup_cons_ite, mem_cons, induction unique.2]
    split_ifs with same
    · subst same
      simp [lookup_eq_none unique.1, eq_comm]
    · simp [same]

end

theorem peer?_modifyPeer (lane : LaneWorker Peer) (changed peer : Peer)
    (change : LanePeer → LanePeer) :
    (lane.modifyPeer changed change).peer? peer =
      if peer = changed then (lane.peer? peer).map change else lane.peer? peer := by
  unfold modifyPeer peer?
  induction lane.peers with
  | nil => simp
  | cons entry rest induction =>
    obtain ⟨other, value⟩ := entry
    by_cases same : other = changed
    · simp only [map_cons, same, if_true, lookup_cons_ite, induction]
      by_cases found : peer = changed <;> simp [found]
    · simp only [map_cons, same, if_false, lookup_cons_ite, induction]
      by_cases found : peer = other
      · simp [found, same]
      · simp [found]

theorem lookup_filter_ne (entries : List (Peer × LanePeer)) (removed peer : Peer) :
    (entries.filter (·.1 ≠ removed)).lookup peer =
      if peer = removed then none else entries.lookup peer := by
  induction entries with
  | nil => simp
  | cons entry rest induction =>
    obtain ⟨other, value⟩ := entry
    rw [lookup_cons_ite]
    by_cases same : other = removed
    · rw [filter_cons_of_neg (by simp [same]), induction, same]
      by_cases found : peer = removed <;> simp [found]
    · rw [filter_cons_of_pos (by simp [same]), lookup_cons_ite, induction]
      by_cases found : peer = other
      · simp [found, same]
      · simp [found]

/-! ## One peer -/

variable [CompressionPrimitives]

/-- Whole messages were queued, and a fresh decoder accepts them. -/
def Decodable (kind : CompressionKind) (queued : List QueuedFrame) : Prop :=
  queued.flatMap (·.frame.bytes) = (queued.flatMap (·.messages)).flatMap encodeMessageFlat ∧
    ∃ decoder plains, decodeStream decode (.having kind none)
      (queued.flatMap (·.messages)) = .ok (decoder, plains)

/-- A fresh decoder accepts what was queued, and then holds the given dictionary. -/
def Follows (kind : CompressionKind) (queued : List QueuedFrame) (dict : Option Bytes) : Prop :=
  queued.flatMap (·.frame.bytes) = (queued.flatMap (·.messages)).flatMap encodeMessageFlat ∧
    ∃ plains, decodeStream decode (.having kind none)
      (queued.flatMap (·.messages)) = .ok (.having kind dict, plains)

variable {kind : CompressionKind} {dict : Bytes} {policy : FanOutMutePolicy}
  {message : Message} {job : LaneJob Peer} {entry : LanePeer}
  {queued : List QueuedFrame} {frame : FanOutFrame}

theorem Follows.push {before after : Option Bytes} (follows : Follows kind queued before)
    {plain : Option Message}
    (decoded : (having kind before).decode message = .ok (.having kind after, plain))
    (bytes_eq : frame.bytes = encodeMessageFlat message) (encoding : Option CompressionKind) :
    Follows kind (queued ++ [⟨encoding, [message], frame⟩]) after := by
  obtain ⟨whole, plains, stream_eq⟩ := follows
  refine ⟨by simp [whole, bytes_eq], plains ++ plain.toList, ?_⟩
  rw [flatMap_append]
  exact decodeStream_append stream_eq (decodeStream_singleton decoded)

/-- The slot of a peer knows what a decoder of its frames holds. -/
structure PeerSound (policy : FanOutMutePolicy) (kind : CompressionKind) (dict : Bytes)
    (slot : PeerTransmitSlot) (queued : List QueuedFrame) : Prop where
  keeps : slot.Keeps policy
  follows : ∃ held, Follows kind queued held ∧
    (slot.dead = false → held = if slot.fanoutDictQueuedOrShipped then some dict else none)

theorem PeerSound.steady {slot after : PeerTransmitSlot}
    (sound : PeerSound policy kind dict slot queued) (steady : Steady policy slot after) :
    PeerSound policy kind dict after queued := by
  obtain ⟨keeps, held, follows, holds⟩ := sound
  refine ⟨steady.keeps keeps, held, follows, fun alive => ?_⟩
  obtain ⟨alive, same⟩ := steady.alive alive
  rw [(same keeps).1]
  exact holds alive

theorem PeerSound.payload {slot : PeerTransmitSlot} (sound : PeerSound policy kind dict slot queued)
    (equipped : slot.Equipped) (pushed : (pushFrame policy false frame slot).1 = .ok)
    {wire : Message} {plain : Option Message}
    (decoded : (having kind (some dict)).decode wire = .ok (.having kind (some dict), plain))
    (bytes_eq : frame.bytes = encodeMessageFlat wire) (encoding : Option CompressionKind) :
    PeerSound policy kind dict (pushFrame policy false frame slot).2
      (queued ++ [⟨encoding, [wire], frame⟩]) := by
  obtain ⟨alive, alive_after⟩ := alive_of_pushFrame pushed
  have steady : Steady policy slot (pushFrame policy false frame slot).2 :=
    steady_pushFrame (by simp)
  have held_before := equipped.resolve_left (by simp [alive])
  have held_after := ((steady.alive alive_after).2 sound.keeps).1.trans held_before
  obtain ⟨keeps, held, follows, holds⟩ := sound
  obtain rfl : held = some dict := by rw [holds alive, if_pos held_before]
  exact ⟨steady.keeps keeps, some dict, follows.push decoded bytes_eq encoding,
    fun _ => (if_pos held_after).symm⟩

def dictPushed (policy : FanOutMutePolicy) (frame : FanOutFrame) (slot : PeerTransmitSlot) :
    PeerTransmitSlot :=
  if policy = .dropOldest then (pushFrame policy true frame slot).2
  else (pushFrame policy true frame slot).2.markFanoutDictShipped

omit [CompressionPrimitives] in
theorem held_dictPushed {slot : PeerTransmitSlot}
    (pushed : (pushFrame policy true frame slot).1 = .ok) :
    (dictPushed policy frame slot).fanoutDictQueuedOrShipped = true := by
  unfold dictPushed
  split_ifs with drops
  · subst drops
    simp [fanoutDictQueuedOrShipped, queued_of_pushFrame pushed]
  · simp [fanoutDictQueuedOrShipped, markFanoutDictShipped]

/-- The dictionary goes to a peer which does not have it. -/
theorem PeerSound.dictionary {slot : PeerTransmitSlot}
    (sound : PeerSound policy kind dict slot queued)
    (missing : slot.fanoutDictQueuedOrShipped = false)
    (pushed : (pushFrame policy true frame slot).1 = .ok) {shipment : Message}
    (decoded : (having kind none).decode shipment = .ok (.having kind (some dict), none))
    (bytes_eq : frame.bytes = encodeMessageFlat shipment) (encoding : Option CompressionKind) :
    PeerSound policy kind dict (dictPushed policy frame slot)
      (queued ++ [⟨encoding, [shipment], frame⟩]) := by
  have held_after := held_dictPushed pushed
  obtain ⟨keeps, held, follows, holds⟩ := sound
  obtain rfl : held = none := by
    rw [holds (alive_of_pushFrame pushed).1, if_neg (by simp [missing])]
  refine ⟨⟨fun _ => held_after, fun lossless => ?_⟩, some dict,
    follows.push decoded bytes_eq encoding, fun _ => (if_pos held_after).symm⟩
  rw [dictPushed, if_neg lossless]
  rfl

/-! ## One dispatch -/

/-- What a dispatch has to send: its payload is for peers which have the dictionary. -/
structure JobLoad (kind : CompressionKind) (dict : Bytes) (lossy : Bool)
    (slots : Peer → PeerTransmitSlot) (job : LaneJob Peer) : Prop where
  shipment : ∀ shipment ∈ job.shipment, (having kind none).decode shipment =
    .ok (.having kind (some dict), none)
  payload : ∃ wire plain : Message, job.wires = [wire] ∧ wire.len < 512 ∧
    (having kind (some dict)).decode wire = .ok (.having kind (some dict), some plain)
  equipped : lossy = true ∨ job.shipment = none → ∀ peer ∈ job.targets, (slots peer).Equipped

/-- A dispatch in progress: its frames are whole. -/
structure JobSound (kind : CompressionKind) (dict : Bytes) (lossy : Bool)
    (slots : Peer → PeerTransmitSlot) (job : LaneJob Peer) : Prop
    extends JobLoad kind dict lossy slots job where
  frame : job.frame.bytes = job.content.flatMap encodeMessageFlat
  dictionary : job.stage = .dictionary → job.shipment.isSome
  targets : job.stage = .payload → ∀ peer ∈ job.remaining, peer ∈ job.targets

/-- A lane whose encoder has a dictionary. -/
structure Supplied (kind : CompressionKind) (dict : Bytes) (lane : LaneWorker Peer) : Prop where
  encoder : ∃ encoder, lane.encoder = some encoder ∧ encoder.Supplies kind dict
  whole : lane.leftover = []
  peers : ∀ peer, PeerSound lane.mutePolicy kind dict (lane.slots peer) (lane.queued peer)
  entries : lane.mutePolicy = .block → ∀ peer, ∀ entry ∈ lane.peer? peer,
    (lane.slots peer).dead = false → entry.dictShipped = (lane.slots peer).fanoutDictShipped
  job : ∀ job ∈ lane.job, JobSound kind dict lane.mutePolicy.isLossy lane.slots job

/-- What keeps the frames of a lane decodable: the dictionary stays the same, and a message which
ships no dictionary goes only to peers which have it.  Messages are such that the decoder has room
for them, and have fewer than 512 parts. -/
def Equipping (kind : CompressionKind) (dict : Bytes) (lane : LaneWorker Peer) : Action Peer → Prop
  | .control (.setCompression other options given) =>
    other = kind ∧ (encoderOptions options given).compressionDict = some dict
  | .dispatch message =>
    MessageEncoder.Admits kind message ∧ message.len < 512 ∧
      ((∀ encoder ∈ lane.encoder, encoder.shippedDict = none) ∨
        ∀ dispatch, LaneDispatch.prepare lane.mode message = .ok dispatch →
          ∀ peer ∈ lane.matching dispatch, (lane.slots peer).fanoutDictQueuedOrShipped = true)
  | _ => True

/-! ## Steps -/

variable {lane : LaneWorker Peer}

def framePushed (lane : LaneWorker Peer) (job : LaneJob Peer) (peer : Peer)
    (slot : PeerTransmitSlot) : LaneWorker Peer :=
  { lane with
    slots := update lane.slots peer slot
    queued := update lane.queued peer
      (lane.queued peer ++ [QueuedFrame.mk job.kind job.content job.frame]) }

section

variable (supplied : lane.Supplied kind dict)

include supplied

theorem Supplied.pushed {peer : Peer} {slot : PeerTransmitSlot} {queued : List QueuedFrame}
    {peers : List (Peer × LanePeer)} (sound : PeerSound lane.mutePolicy kind dict slot queued)
    (equipped : (lane.slots peer).Equipped → slot.Equipped)
    (entries : lane.mutePolicy = .block → slot.dead = false → ∀ entry ∈ peers.lookup peer,
      entry.dictShipped = slot.fanoutDictShipped)
    (others : ∀ other, other ≠ peer → peers.lookup other = lane.peer? other) :
    ({ lane with
      peers
      slots := update lane.slots peer slot
      queued := update lane.queued peer queued } : LaneWorker Peer).Supplied kind dict := by
  refine ⟨supplied.encoder, supplied.whole, fun other => ?_, fun blocks other entry member => ?_,
    fun job member => ?_⟩
  · by_cases same : other = peer
    · subst same
      simpa using sound
    · simpa [same] using supplied.peers other
  · by_cases same : other = peer
    · subst same
      intro alive
      simp only [update_self] at alive ⊢
      exact entries blocks alive entry member
    · simp only [update_of_ne same]
      exact supplied.entries blocks other entry ((others other same).symm ▸ member)
  · have sound_job := supplied.job job member
    refine { sound_job with equipped := fun settled other other_mem => ?_ }
    have before := sound_job.equipped settled other other_mem
    by_cases same : other = peer
    · subst same
      simpa using equipped before
    · simpa [same] using before

/-- A slot changes without a dictionary being pushed. -/
theorem Supplied.modifySlot (peer : Peer) {change : PeerTransmitSlot → PeerTransmitSlot}
    (steady : Steady lane.mutePolicy (lane.slots peer) (change (lane.slots peer))) :
    (lane.modifySlot peer change).Supplied kind dict := by
  have sound := supplied.peers peer
  have changed := supplied.pushed (sound.steady steady) (·.steady sound.keeps steady)
    (fun blocks alive entry member => ?_) fun _ _ => rfl
  · simpa [LaneWorker.modifySlot] using changed
  · obtain ⟨alive, same⟩ := steady.alive alive
    rw [(same sound.keeps).2 blocks]
    exact supplied.entries blocks peer entry member alive

/-- A command changes the entries of peers, but not what they say of the dictionary. -/
theorem Supplied.withPeers {peers : List (Peer × LanePeer)} (subscribeAllCount : Nat)
    (same : ∀ peer, ∀ entry ∈ peers.lookup peer, (∃ before ∈ lane.peer? peer, entry.dictShipped =
      before.dictShipped) ∨ entry.dictShipped = (lane.slots peer).fanoutDictShipped) :
    ({ lane with peers, subscribeAllCount } : LaneWorker Peer).Supplied kind dict := by
  refine ⟨supplied.encoder, supplied.whole, supplied.peers, ?_, supplied.job⟩
  intro blocks peer entry member alive
  obtain ⟨before, before_mem, entry_eq⟩ | entry_eq := same peer entry member
  · rw [entry_eq]
    exact supplied.entries blocks peer before before_mem alive
  · exact entry_eq

/-- Changing what a peer subscribed to leaves the dictionary alone. -/
theorem Supplied.modifyPeer (peer : Peer) {change : LanePeer → LanePeer}
    (kept : ∀ entry, (change entry).dictShipped = entry.dictShipped) :
    (lane.modifyPeer peer change).Supplied kind dict := by
  refine supplied.withPeers lane.subscribeAllCount fun other entry member => .inl ?_
  have member : entry ∈ (lane.modifyPeer peer change).peer? other := member
  rw [peer?_modifyPeer] at member
  split_ifs at member
  · obtain ⟨before, before_mem, rfl⟩ := Option.mem_map.mp member
    exact ⟨before, before_mem, kept before⟩
  · exact ⟨entry, member, rfl⟩

theorem Supplied.withCount (subscribeAllCount : Nat) :
    ({ lane with subscribeAllCount } : LaneWorker Peer).Supplied kind dict :=
  ⟨supplied.encoder, supplied.whole, supplied.peers, supplied.entries, supplied.job⟩

theorem Supplied.initEncoder {options : CompressionOptions} {given : Option Bytes}
    (configured : (encoderOptions options given).compressionDict = some dict) :
    (lane.initEncoder kind options given).Supplied kind dict := by
  unfold LaneWorker.initEncoder
  split_ifs
  · split
    next encoder built =>
      exact ⟨⟨encoder, rfl, MessageEncoder.supplies_of_build built configured⟩, supplied.whole,
        supplied.peers, supplied.entries, supplied.job⟩
    · exact supplied
  · exact supplied

theorem Supplied.handleControl {command : LaneControl Peer}
    (equipping : lane.Equipping kind dict (.control command)) :
    (lane.handleControl command).Supplied kind dict := by
  cases command with
  | addPeer peer anyGroups =>
    refine supplied.withPeers lane.subscribeAllCount fun other entry member => ?_
    rw [lookup_append, lookup_filter_ne, lookup_cons_ite] at member
    by_cases same : other = peer
    · right
      simp only [same, if_true, Option.none_or, Option.mem_def, Option.some.injEq] at member
      rw [← member, same]
    · left
      simp only [same, if_false, lookup_nil, Option.or_none] at member
      exact ⟨entry, member, rfl⟩
  | removePeer peer =>
    refine supplied.withPeers _ fun other entry member => .inl ?_
    rw [lookup_filter_ne] at member
    split_ifs at member
    · cases member
    · exact ⟨entry, member, rfl⟩
  | subscribe peer topic | cancel peer topic =>
    simp only [LaneWorker.handleControl]
    split
    · exact (supplied.modifyPeer peer (by exact fun _ => rfl)).withCount _
    · exact supplied
  | join peer group | leave peer group =>
    simp only [LaneWorker.handleControl]
    split_ifs
    · exact supplied.modifyPeer peer (by exact fun _ => rfl)
    · exact supplied
  | setCompression other options given =>
    obtain ⟨rfl, configured⟩ := equipping
    exact supplied.initEncoder configured
  | shutdown =>
    exact ⟨supplied.encoder, supplied.whole, supplied.peers,
      fun _ _ _ member => absurd member (by simp [peer?, LaneWorker.handleControl]),
      fun _ member => nomatch member⟩

theorem Supplied.withJob {job : Option (LaneJob Peer)}
    (sound : ∀ next ∈ job, JobSound kind dict lane.mutePolicy.isLossy lane.slots next) :
    ({ lane with job } : LaneWorker Peer).Supplied kind dict :=
  ⟨supplied.encoder, supplied.whole, supplied.peers, supplied.entries, sound⟩

/-- The payload follows, for the peers which were collected. -/
theorem Supplied.startPayload (load : JobLoad kind dict lane.mutePolicy.isLossy lane.slots job) :
    (lane.startPayload job).Supplied kind dict := by
  unfold LaneWorker.startPayload
  split_ifs
  · exact supplied.withJob fun _ member => nomatch member
  · obtain ⟨wire, plain, wires_eq, short, decoded⟩ := load.payload
    obtain ⟨bytes_eq, rest_eq⟩ := buildFanOutFrame_of_short short job.targets.length
    rw [supplied.whole, wires_eq]
    refine ⟨supplied.encoder, rest_eq, supplied.peers, supplied.entries, ?_⟩
    intro next member
    obtain rfl := Option.some.inj member
    exact
      { shipment := load.shipment
        payload := ⟨wire, plain, rfl, short, decoded⟩
        equipped := load.equipped
        frame := by simp [LaneJob.content, bytes_eq]
        dictionary := fun gone => nomatch gone
        targets := fun _ _ member => member }

theorem Supplied.advance (job_eq : lane.job = some job)
    {peer : Peer} {rest : List Peer} (remaining_eq : job.remaining = peer :: rest) {ready : Bool}
    (equipped : job.stage = .dictionary → lane.mutePolicy.isLossy = true → ready = true →
      (lane.slots peer).Equipped) :
    (lane.advance job peer rest ready).Supplied kind dict := by
  have sound := supplied.job job job_eq
  refine supplied.withJob fun next member => ?_
  obtain rfl := Option.some.inj member
  refine ⟨⟨sound.shipment, sound.payload, ?_⟩, sound.frame, sound.dictionary, ?_⟩
  · intro settled other other_mem
    have other_mem : other ∈ if decide (job.stage = .dictionary ∧ lane.mutePolicy.isLossy = true ∧
        ready = true) = true then job.targets ++ [peer] else job.targets := other_mem
    split_ifs at other_mem with collects
    · obtain ⟨dictionary, lossy, is_ready⟩ := of_decide_eq_true collects
      exact forall_mem_append.mpr ⟨sound.equipped settled,
        forall_mem_singleton.mpr (equipped dictionary lossy is_ready)⟩ other other_mem
    · exact sound.equipped settled other other_mem
  · intro payload other other_mem
    have payload : job.stage = .payload := payload
    have target := sound.targets payload other (by rw [remaining_eq]; exact .tail _ other_mem)
    simpa [payload] using target

theorem Supplied.pushPayload (job_eq : lane.job = some job) {peer : Peer}
    (selected : peer ∈ job.remaining) (found : lane.peer? peer = some entry)
    (payload : job.stage = .payload) (wanted : lane.wants job peer entry = true)
    (pushed : (pushFrame lane.mutePolicy false job.frame (lane.slots peer)).1 = .ok) :
    (lane.framePushed job peer
      (pushFrame lane.mutePolicy false job.frame (lane.slots peer)).2).Supplied kind dict := by
  have sound := supplied.job job job_eq
  obtain ⟨alive, alive_after⟩ := alive_of_pushFrame pushed
  have steady : Steady lane.mutePolicy (lane.slots peer)
      (pushFrame lane.mutePolicy false job.frame (lane.slots peer)).2 := steady_pushFrame (by simp)
  have equipped : (lane.slots peer).Equipped := by
    simp only [wants, payload, Bool.or_eq_true, Option.isNone_iff_eq_none] at wanted
    obtain settled | shipped := wanted
    · exact sound.equipped settled peer (sound.targets payload peer selected)
    · by_cases blocks : lane.mutePolicy = .block
      · have shipped := (supplied.entries blocks peer entry found alive).symm.trans shipped
        exact .inr (by simp [fanoutDictQueuedOrShipped, shipped])
      · have lossy : lane.mutePolicy.isLossy = true := by
          cases policy : lane.mutePolicy <;> simp_all [FanOutMutePolicy.isLossy]
        exact sound.equipped (.inl lossy) peer (sound.targets payload peer selected)
  obtain ⟨wire, plain, wires_eq, _, decoded⟩ := sound.payload
  have content_eq : job.content = [wire] := by simp [LaneJob.content, payload, wires_eq]
  have bytes_eq : job.frame.bytes = encodeMessageFlat wire := by simp [sound.frame, content_eq]
  rw [framePushed, content_eq]
  refine supplied.pushed ((supplied.peers peer).payload equipped pushed decoded bytes_eq job.kind)
    (fun equipped => equipped.steady (supplied.peers peer).keeps steady) ?_ (fun _ _ => rfl)
  intro blocks _ entry member
  rw [((steady.alive alive_after).2 (supplied.peers peer).keeps).2 blocks]
  exact supplied.entries blocks peer entry member alive

theorem Supplied.pushDictionary (job_eq : lane.job = some job) {peer : Peer}
    (found : lane.peer? peer = some entry) (dictionary : job.stage = .dictionary)
    (wanted : lane.wants job peer entry = true)
    (pushed : (pushFrame lane.mutePolicy true job.frame (lane.slots peer)).1 = .ok) :
    ((lane.framePushed job peer
      (pushFrame lane.mutePolicy true job.frame (lane.slots peer)).2).markDict peer).Supplied
        kind dict ∧
      (((lane.framePushed job peer (pushFrame lane.mutePolicy true job.frame
        (lane.slots peer)).2).markDict peer).slots peer).Equipped := by
  have sound := supplied.job job job_eq
  obtain ⟨alive, _⟩ := alive_of_pushFrame pushed
  have missing : (lane.slots peer).fanoutDictQueuedOrShipped = false := by
    by_cases lossy : lane.mutePolicy.isLossy = true
    · simpa [wants, dictionary, lossy] using wanted
    · have blocks : lane.mutePolicy = .block := by
        cases policy : lane.mutePolicy <;> simp_all [FanOutMutePolicy.isLossy]
      have unshipped : entry.dictShipped = false := by
        simpa [wants, dictionary, lossy] using wanted
      rw [supplied.entries blocks peer entry found alive] at unshipped
      have unqueued := (supplied.peers peer).keeps.queued (by simp [blocks])
      simp [fanoutDictQueuedOrShipped, unshipped, unqueued]
  obtain ⟨shipment, shipment_eq⟩ := Option.isSome_iff_exists.mp (sound.dictionary dictionary)
  have content_eq : job.content = [shipment] := by
    simp [LaneJob.content, dictionary, shipment_eq]
  have bytes_eq : job.frame.bytes = encodeMessageFlat shipment := by simp [sound.frame, content_eq]
  have peer_sound := (supplied.peers peer).dictionary missing pushed
    (sound.shipment shipment shipment_eq) bytes_eq job.kind
  have held := held_dictPushed pushed
  unfold dictPushed at peer_sound held
  unfold markDict
  by_cases drops : lane.mutePolicy = .dropOldest
  · simp only [framePushed, content_eq, if_pos drops] at peer_sound held ⊢
    exact ⟨supplied.pushed peer_sound (fun _ => .inr held) (fun blocks => by simp [drops] at blocks)
      (fun _ _ => rfl), by simpa using .inr held⟩
  · simp only [framePushed, content_eq, if_neg drops] at peer_sound held ⊢
    refine ⟨?_, by simpa [LaneWorker.modifySlot, LaneWorker.modifyPeer] using .inr held⟩
    have marked : ({ lane with
        peers := (lane.modifyPeer peer fun entry => { entry with dictShipped := true }).peers
        slots := update lane.slots peer (pushFrame lane.mutePolicy true job.frame
          (lane.slots peer)).2.markFanoutDictShipped
        queued := update lane.queued peer
          (lane.queued peer ++ [⟨job.kind, [shipment], job.frame⟩]) } : LaneWorker Peer).Supplied
            kind dict := by
      refine supplied.pushed peer_sound (fun _ => .inr held) ?_ ?_
      · intro _ _ entry member
        have member : entry ∈ (lane.modifyPeer peer _).peer? peer := member
        rw [peer?_modifyPeer, if_pos rfl] at member
        obtain ⟨_, _, rfl⟩ := Option.mem_map.mp member
        rfl
      · intro other differs
        have same := peer?_modifyPeer lane peer other
          fun entry => { entry with dictShipped := true }
        rwa [if_neg differs] at same
    simpa [LaneWorker.modifySlot, LaneWorker.modifyPeer] using marked

/-- A worker which waits for a slot keeps its dispatch. -/
theorem Supplied.block (job_eq : lane.job = some job) :
    ({ lane with job := some { job with blocked := true } } :
      LaneWorker Peer).Supplied kind dict := by
  have sound := supplied.job job job_eq
  refine supplied.withJob fun blocked member => ?_
  obtain rfl := Option.some.inj member
  exact { sound with }

/-- The frame of the stage goes to the next peer, or the peer is skipped. -/
theorem Supplied.pushNext (job_eq : lane.job = some job) {peer : Peer} {rest : List Peer}
    (remaining_eq : job.remaining = peer :: rest) :
    (lane.pushNext job peer rest).Supplied kind dict := by
  have skipped {after : LaneWorker Peer} (supplied : after.Supplied kind dict)
      (job_eq : after.job = some job) : (after.advance job peer rest false).Supplied kind dict :=
    supplied.advance job_eq remaining_eq fun _ _ ready => nomatch ready
  unfold LaneWorker.pushNext
  cases found : lane.peer? peer with
  | none => exact skipped supplied job_eq
  | some entry =>
    by_cases wanted : lane.wants job peer entry = true
    · simp only [wanted, Bool.not_true, Bool.false_eq_true, if_false]
      by_cases pushed : (pushFrame lane.mutePolicy (decide (job.stage = .dictionary)) job.frame
          (lane.slots peer)).1 = .ok
      · rw [pushed]
        cases stage : job.stage with
        | dictionary =>
          simp only [stage, decide_true, if_true] at pushed ⊢
          obtain ⟨after, equipped⟩ := supplied.pushDictionary job_eq found stage wanted pushed
          have job_after : ((lane.framePushed job peer (pushFrame lane.mutePolicy true job.frame
              (lane.slots peer)).2).markDict peer).job = some job := by
            unfold markDict
            split_ifs <;> exact job_eq
          exact after.advance job_after remaining_eq fun _ _ _ => equipped
        | payload =>
          have plain : decide (LaneStage.payload = .dictionary) = false := rfl
          simp only [stage, plain, Bool.false_eq_true, if_false] at pushed ⊢
          have after := supplied.pushPayload job_eq (by simp [remaining_eq]) found stage wanted
            pushed
          exact after.advance job_eq remaining_eq fun dictionary => by simp [stage] at dictionary
      · have failed : (lane.modifySlot peer fun _ => (pushFrame lane.mutePolicy
            (decide (job.stage = .dictionary)) job.frame (lane.slots peer)).2).Supplied kind dict :=
          supplied.modifySlot peer (steady_pushFrame fun _ _ => pushed)
        split
        next ok => exact absurd ok pushed
        · split
          · exact failed.block job_eq
          · exact skipped (failed.modifySlot peer (.of_flags rfl rfl rfl id)) job_eq
          · exact skipped failed job_eq
        · exact skipped failed job_eq
    · simp only [wanted, Bool.not_false, if_true]
      refine supplied.advance job_eq remaining_eq fun dictionary lossy _ => .inr ?_
      simpa [wants, dictionary, lossy] using wanted

theorem Supplied.continueJob (job_eq : lane.job = some job) :
    (lane.continueJob job).Supplied kind dict := by
  unfold LaneWorker.continueJob
  cases remaining_eq : job.remaining with
  | cons peer rest => exact supplied.pushNext job_eq remaining_eq
  | nil =>
    cases stage : job.stage with
    | dictionary =>
      exact supplied.startPayload (supplied.job job job_eq).toJobLoad
    | payload => exact supplied.withJob fun _ member => nomatch member

theorem Supplied.reorder {peers : List (Peer × LanePeer)} (perm : peers ~ lane.peers)
    (unique : (peers.map Prod.fst).Nodup) :
    ({ lane with peers } : LaneWorker Peer).Supplied kind dict := by
  refine { supplied with entries := fun blocking peer entry found => ?_ }
  refine supplied.entries blocking peer entry ?_
  have found := perm.subset ((mem_iff_lookup unique).mpr found)
  exact (mem_iff_lookup ((perm.map _).nodup_iff.mp unique)).mp found

variable [LosslessCompression]

/-- A dispatch ships the dictionary, or goes only to peers which have it. -/
theorem Supplied.beginDispatch {dispatch : LaneDispatch}
    (prepared : LaneDispatch.prepare lane.mode message = .ok dispatch)
    (equipping : lane.Equipping kind dict (.dispatch message)) :
    (lane.beginDispatch dispatch).Supplied kind dict := by
  obtain ⟨admits, short, shipping⟩ := equipping
  obtain ⟨encoder, encoder_eq, supplies⟩ := supplied.encoder
  obtain rfl := LaneDispatch.msg_of_prepare prepared
  have encoded : ({ lane with encoder := some (encoder.encode dispatch.msg).1 } :
      LaneWorker Peer).Supplied kind dict :=
    ⟨⟨_, rfl, (supplies.encode dispatch.msg).1⟩, supplied.whole, supplied.peers,
      supplied.entries, supplied.job⟩
  simp only [LaneWorker.beginDispatch]
  split_ifs
  · exact supplied
  · simp only [LaneWorker.encode, encoder_eq]
    cases wires_eq : (encoder.encode dispatch.msg).2 with
    | error error => exact encoded
    | ok wires =>
      obtain ⟨wire, plain, rfl, decoded, len_eq⟩ := supplies.wires admits wires_eq
      by_cases pending : encoder.shippedDict = none
      · obtain ⟨bytes_eq, rest_eq⟩ := buildFanOutFrame_of_short
          (MessageEncoder.len_dictShipment_lt dict kind) (lane.matching dispatch).length
        simp only [pending, if_true, cons_append, nil_append, takeLeadingDictShipment,
          supplies.isDictShipment, supplied.whole]
        refine ⟨encoded.encoder, rest_eq, encoded.peers, encoded.entries, ?_⟩
        intro job member
        obtain rfl := Option.some.inj member
        exact
          { shipment := by
              intro shipment shipment_eq
              obtain rfl := Option.some.inj shipment_eq
              exact supplies.decode_shipment
            payload := ⟨wire, plain, rfl, len_eq ▸ short, decoded⟩
            equipped := by
              rintro (lossy | gone)
              · simp [lossy]
              · cases gone
            frame := by simp [LaneJob.content, bytes_eq]
            dictionary := fun _ => rfl
            targets := fun gone => nomatch gone }
      · have plain_wire := MessageEncoder.not_isDictShipment_of_decode decoded
        simp only [pending, if_false, nil_append, takeLeadingDictShipment, plain_wire]
        refine encoded.startPayload ⟨(fun _ gone => nomatch gone),
          ⟨wire, plain, rfl, len_eq ▸ short, decoded⟩, fun _ peer member => ?_⟩
        obtain unshipped | shipped := shipping
        · exact absurd (unshipped encoder encoder_eq) pending
        · exact .inr (shipped dispatch prepared peer member)

theorem Supplied.step {after : LaneWorker Peer} {action : Action Peer}
    (equipping : lane.Equipping kind dict action) (stepped : lane.step action = some after) :
    after.Supplied kind dict := by
  revert stepped
  fun_cases lane.step action <;> rintro ⟨⟩
  · exact supplied.handleControl equipping
  next dispatch prepared => exact supplied.beginDispatch prepared equipping
  next job job_eq => exact supplied.continueJob job_eq
  next peer change => exact supplied.modifySlot peer (steady_apply change _)
  next same => exact supplied.reorder same.1 same.2

end

/-! ## Runs -/

/-- What the slot of a peer is made with. -/
structure SlotSetup where
  hasTransform : Bool
  compressionKind : Option CompressionKind
  transformPassthrough : Option (Bytes × Nat)
  arenaThreshold : Nat
  cap : Nat
  msgCap : Nat
  wsRole : Option WsRole

def SlotSetup.slot (setup : SlotSetup) : PeerTransmitSlot :=
  .new setup.hasTransform setup.compressionKind setup.transformPassthrough setup.arenaThreshold
    setup.cap setup.msgCap setup.wsRole

def start (mode : FanOutMode) (mutePolicy : FanOutMutePolicy) (encoder : MessageEncoder)
    (setups : Peer → SlotSetup) : LaneWorker Peer where
  mode
  mutePolicy
  peers := []
  subscribeAllCount := 0
  encoder := some encoder
  leftover := []
  job := none
  closed := false
  slots peer := (setups peer).slot
  queued _ := []

omit [DecidableEq Peer] in
theorem peerSound_slot (setup : SlotSetup) : PeerSound policy kind dict setup.slot [] := by
  refine ⟨⟨fun guarded => ?_, fun _ => rfl⟩, none, ⟨rfl, [], rfl⟩, fun _ => rfl⟩
  simp [FrameBuffer.Guarded, SlotSetup.slot, PeerTransmitSlot.new, FrameBuffer.withConfigLazy]
    at guarded

theorem supplied_start {encoder : MessageEncoder} (supplies : encoder.Supplies kind dict)
    (mode : FanOutMode) (setups : Peer → SlotSetup) :
    (start mode policy encoder setups).Supplied kind dict := by
  refine ⟨⟨encoder, rfl, supplies⟩, rfl, fun peer => peerSound_slot (setups peer), ?_, ?_⟩
  · intro _ peer entry member
    simp [start, peer?] at member
  · exact fun _ member => nomatch member

/-- In every run which ships the dictionary with a message, or sends the message only to peers
which have it, every peer is queued what a fresh decoder accepts. -/
theorem decodable_of_equipping [LosslessCompression] (mode : FanOutMode)
    (mutePolicy : FanOutMutePolicy) (setups : Peer → SlotSetup) {options : CompressionOptions}
    {dictIdDraw : Nat} {encoder : MessageEncoder} (configured : options.compressionDict = some dict)
    (built : MessageEncoder.build (encoderOptions options none) dictIdDraw kind = .ok encoder)
    {final : LaneWorker Peer}
    (runs : Runs step (Equipping kind dict) (start mode mutePolicy encoder setups) final)
    (peer : Peer) : Decodable kind (final.queued peer) := by
  have kept {before after : LaneWorker Peer} {action : Action Peer}
      (equipping : before.Equipping kind dict action) (stepped : before.step action = some after)
      (supplied : before.Supplied kind dict) : after.Supplied kind dict :=
    supplied.step equipping stepped
  have supplies : encoder.Supplies kind dict :=
    MessageEncoder.supplies_of_build built (by simpa [encoderOptions] using configured)
  obtain ⟨whole, plains, decoded⟩ :=
    ((runs.invariant kept (supplied_start supplies mode setups)).peers peer).follows.choose_spec.1
  exact ⟨whole, _, plains, decoded⟩

end

/-! ## Two subscribers -/

def messageOf (data : Bytes) : Message := .fromPayload (.fromBytes data)

/-- A dictionary, which also begins with a topic. -/
def topicDict : Bytes := List.replicate 64 2

def dictOptions : CompressionOptions := ⟨some topicDict, false, none, none, none⟩

/-- The LZ4 encoder the options ask for. -/
def dictEncoder : MessageEncoder :=
  match @MessageEncoder.build .storing (encoderOptions dictOptions none) 0 .lz4 with
  | .ok encoder => encoder
  | .error _ => .lz4 .new

/-- A worker of a PUB socket with that encoder. -/
def publisher : LaneWorker Bool :=
  start .subscriptionPrefix .block dictEncoder
    fun _ => ⟨true, some .lz4, none, 4096, 65536, 100, none⟩

/-- Each peer subscribes to its own topic. -/
def joinBoth : List (Action Bool) :=
  [.control (.addPeer false false), .control (.addPeer true false),
    .control (.subscribe false [1]), .control (.subscribe true [2])]

def publish (data : Bytes) (steps : Nat) : List (Action Bool) :=
  .dispatch (messageOf data) :: List.replicate steps .work

instance (kind : CompressionKind) (message : Message) :
    Decidable (MessageEncoder.Admits kind message) := by
  unfold MessageEncoder.Admits
  infer_instance

instance {Peer : Type*} [DecidableEq Peer] (kind : CompressionKind) (dict : Bytes)
    (lane : LaneWorker Peer) (action : Action Peer) :
    Decidable (lane.Equipping kind dict action) := by
  have prepared (message : Message) : Decidable (∀ dispatch,
      LaneDispatch.prepare lane.mode message = .ok dispatch → ∀ peer ∈ lane.matching dispatch,
        (lane.slots peer).fanoutDictQueuedOrShipped = true) :=
    match LaneDispatch.prepare lane.mode message with
    | .ok dispatch => decidable_of_iff (∀ peer ∈ lane.matching dispatch,
        (lane.slots peer).fanoutDictQueuedOrShipped = true)
          ⟨fun equipped _ same => Except.ok.inj same ▸ equipped, fun equipped => equipped _ rfl⟩
    | .error _ => .isTrue fun _ same => nomatch same
  cases action with
  | control command => cases command <;> unfold Equipping <;> infer_instance
  | dispatch message => unfold Equipping; infer_instance
  | work | slot | reorder => exact .isTrue trivial

/-- When both peers get the first message, the dictionary reaches both before it is used. -/
theorem dictionary_first : ∃ final, Runs (@step Bool _ .storing)
    (Equipping .lz4 topicDict) publisher final ∧ (final.queued true).length = 3 ∧
      @Decodable .storing .lz4 (final.queued true) := by
  have runs : Runs (@step Bool _ .storing) (Equipping .lz4 topicDict) publisher _ :=
    .computed (joinBoth ++ [.control (.subscribe true [1])] ++ publish [1] 6 ++
      publish topicDict 2) (by decide +kernel)
  exact ⟨_, runs, by decide +kernel, @decodable_of_equipping Bool _ .storing .lz4 topicDict
    .storing .subscriptionPrefix .block _ dictOptions 0 dictEncoder rfl rfl _ runs true⟩

/-- The second peer is queued a message compressed with a dictionary it was never queued: the first
message, which shipped the dictionary, did not go to it. -/
theorem dictionary_missed : @LosslessCompression .storing ∧
    @MessageEncoder.build .storing (encoderOptions dictOptions none) 0 .lz4 = .ok dictEncoder ∧
      ∃ final, Reaches (@step Bool _ .storing) publisher final ∧
        ¬@Decodable .storing .lz4 (final.queued true) := by
  refine ⟨.storing, rfl, ?_⟩
  obtain ⟨final, reached, failed⟩ : ∃ final, Reaches (@step Bool _ .storing) publisher
      final ∧ (decodeStream (@MessageDecoder.decode .storing) (.having .lz4 none)
        ((final.queued true).flatMap (·.messages))).toOption.isNone :=
    exists_reaches (joinBoth ++ publish [1] 4 ++ publish topicDict 2) (by decide +kernel)
  refine ⟨final, reached, ?_⟩
  rintro ⟨_, decoder, plains, decoded⟩
  rw [decoded] at failed
  cases failed

end LaneWorker

end Omq
