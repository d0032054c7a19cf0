import Omq.Tokio.FanOut.Dictionary
import Omq.Tokio.Outlets

/-!
# Publishing without waiting

A fan-out socket gives a message to the peers outside the lanes itself and pushes it into the ring
of the first lane for all others.  The ring may be full after the former have taken the message.
-/

namespace Omq

open LaneDispatch LaneWorker List PeerOutbound

structure LaneCompressionUpdate where
  kind : CompressionKind
  options : CompressionOptions
  dict : Option Bytes

/-- What the first lane is sent. -/
inductive LaneData
  | dispatch (dispatch : LaneDispatch)
  | setCompression (update : LaneCompressionUpdate)

/-- The end of the first lane's ring which the socket holds. -/
structure LaneDistributor where
  tx : Channel LaneData
  pendingCompression : Option LaneCompressionUpdate

namespace LaneDistributor

variable (distributor : LaneDistributor)

def tryPushPendingCompression : Bool × LaneDistributor :=
  match distributor.pendingCompression with
  | none => (true, distributor)
  | some update =>
    match distributor.tx.push (.setCompression update) with
    | (true, tx) => (true, ⟨tx, none⟩)
    | (false, _) => (false, distributor)

/-- Push a message for the lanes; whether it is refused. -/
def tryDispatch (policy : FanOutMutePolicy) (dispatch : LaneDispatch) : Bool × LaneDistributor :=
  match distributor.tryPushPendingCompression with
  | (false, distributor) => (!policy.isLossy, distributor)
  | (true, distributor) =>
    match distributor.tx.push (.dispatch dispatch) with
    | (true, tx) => (false, { distributor with tx })
    | (false, _) => (!policy.isLossy, distributor)

def dispatches : List LaneDispatch :=
  distributor.tx.items.filterMap fun
    | .dispatch dispatch => some dispatch
    | .setCompression _ => none

theorem dispatches_tryPushPendingCompression :
    distributor.tryPushPendingCompression.2.dispatches = distributor.dispatches := by
  obtain ⟨tx, _ | update⟩ := distributor
  · rfl
  · unfold tryPushPendingCompression
    by_cases room : tx.hasRoom = true
    · simp [Channel.push_of_hasRoom room, dispatches]
    · simp [Channel.push_of_not_hasRoom room]

/-- A refused message leaves the messages in the ring as they were. -/
theorem tryDispatch_refused {distributor after : LaneDistributor} {policy : FanOutMutePolicy}
    {dispatch : LaneDispatch} (refused : distributor.tryDispatch policy dispatch = (true, after)) :
    policy = .block ∧ after.dispatches = distributor.dispatches := by
  have blocking : (!policy.isLossy) = true → policy = .block := by cases policy <;> decide
  have kept := distributor.dispatches_tryPushPendingCompression
  revert refused
  fun_cases tryDispatch distributor policy dispatch <;> intro refused
  all_goals obtain ⟨lossless, rfl⟩ := Prod.mk.inj refused
  · simp_all
  · cases lossless
  · simp_all

end LaneDistributor

namespace PeerOutbound

variable (frame : Option FanOutFrame)

/-- Give a message to a peer outside the lanes: encoded for this peer, or as a frame which is
shared by several peers. -/
def offer (policy : FanOutMutePolicy) (message : Message)
    (target : PeerOutbound) (env : Environment) : TryFrameResult × PeerOutbound × Environment :=
  match frame with
  | none => target.tryEncode message env
  | some frame =>
    match target with
    -- the answer of an inbox is not looked at
    | .inbox channel => (.ok, .inbox (channel.trySend message).2, env)
    | .wire peer =>
      if policy = .dropNewest ∧ peer.slot.fanoutActive = false then (.ok, .wire peer, env)
      else
        let (result, slot) := pushFrame policy false frame peer.slot
        let taken := if result = .ok then peer.taken ++ [message] else peer.taken
        (result, .wire { peer with slot, taken }, env)

/-- The queue which takes an offered message. -/
def offered (policy : FanOutMutePolicy) (message : Message) (target : PeerOutbound) :
    Option OutboundQueue :=
  match frame, target with
  | some frame, .wire peer =>
    if policy = .dropNewest ∧ peer.slot.fanoutActive = false then none
    else if (pushFrame policy false frame peer.slot).1 = .ok then some .slot
    else none
  | _, target => target.takes message

variable (policy : FanOutMutePolicy) (message : Message) (target : PeerOutbound) (env : Environment)

/-- An offered message is taken by one queue of the peer, unless old messages make room for it. -/
theorem took_offer (keeps : policy ≠ .dropOldest) :
    Took message target (offer frame policy message target env).2.1
      (offered frame policy message target) := by
  cases frame with
  | none => exact target.took_tryEncode message env
  | some frame =>
    cases target with
    | inbox channel => exact took_inbox channel message
    | wire peer =>
      simp only [offer, offered]
      by_cases skipped : policy = .dropNewest ∧ peer.slot.fanoutActive = false
      · rw [if_pos skipped, if_pos skipped]
        exact ⟨rfl, fun _ => rfl⟩
      · rw [if_neg skipped, if_neg skipped]
        obtain ⟨-, pushed⟩ | ⟨-, pushed | ⟨-, pushed⟩⟩ :=
          answered_pushFrame policy keeps false frame peer.slot
        all_goals rw [pushed]
        · exact ⟨rfl, fun _ => rfl⟩
        · exact ⟨rfl, fun _ => rfl⟩
        · exact ⟨rfl, nofun⟩

theorem queues_offer : (offer frame policy message target env).2.1.queues =
    enqueue message target.queues (offered frame policy message target) := by
  by_cases oldest : policy = .dropOldest
  · subst oldest
    cases frame with
    | none => exact (target.took_tryEncode message env).queues
    | some frame =>
      cases target with
      | inbox channel => exact (took_inbox channel message).queues
      | wire peer =>
        simp only [offer, offered]
        split_ifs <;> simp_all [queues, content, OutboundContent.queues, enqueue]
  · exact (took_offer frame policy message target env oldest).queues

end PeerOutbound

structure FanOutPeer where
  subscriptions : SubscriptionSet
  groups : List (List Char)
  anyGroups : Bool
  target : PeerOutbound
  /-- The lane which serves the peer; the socket itself serves a peer without one. -/
  lane : Option Nat
  fanoutActive : Bool

/-- What the socket knows of a peer, and what waits in its outlet. -/
structure FanOutRoute where
  id : Nat
  subscriptions : SubscriptionSet
  groups : List (List Char)
  anyGroups : Bool
  content : OutboundContent
  lane : Option Nat
  fanoutActive : Bool

def FanOutPeer.route (entry : Nat × FanOutPeer) : FanOutRoute :=
  ⟨entry.1, entry.2.subscriptions, entry.2.groups, entry.2.anyGroups, entry.2.target.content,
    entry.2.lane, entry.2.fanoutActive⟩

/-- Offer a message to a peer; a full peer is skipped from now on, if new messages are dropped. -/
def FanOutPeer.give (frame : Option FanOutFrame) (policy : FanOutMutePolicy) (message : Message)
    (peer : FanOutPeer) (env : Environment) : FanOutPeer × Environment :=
  let (result, target, env) := PeerOutbound.offer frame policy message peer.target env
  if result = .full ∧ policy = .dropNewest then
    match target with
    | .wire wirePeer =>
      let slot := wirePeer.slot.deactivateFanout
      ({ peer with target := .wire { wirePeer with slot }, fanoutActive := false }, env)
    | .inbox channel => ({ peer with target := .inbox channel }, env)
  else ({ peer with target }, env)

/-- The sending half of a fan-out socket. -/
structure FanOutSubmitter where
  mode : FanOutMode
  mutePolicy : FanOutMutePolicy
  peers : List (Nat × FanOutPeer)
  subscribeAllCount : Nat
  fallbackPeerCount : Nat
  lanePeerCount : Nat
  distributor : LaneDistributor
  /-- Chunks which an earlier frame of the calling thread left over. -/
  leftover : List Bytes

namespace FanOutSubmitter

variable (submitter : FanOutSubmitter) (dispatch : LaneDispatch)

/-- The socket itself gives the message to this peer. -/
def selects (peer : FanOutPeer) : Bool :=
  let allSubscribeAll : Bool := submitter.mode = .subscriptionPrefix ∧
    submitter.peers.length ≠ 0 ∧ submitter.subscribeAllCount = submitter.peers.length
  peer.lane.isNone && peer.fanoutActive && (allSubscribeAll ||
    peerMatches submitter.mode ⟨peer.subscriptions, peer.groups, peer.anyGroups, false⟩ dispatch)

/-- The peers which the socket itself gives the message to. -/
def fallbackTargets : List PeerOutbound :=
  (submitter.peers.filter fun entry => submitter.selects dispatch entry.2).map fun entry =>
    entry.2.target

/-- The frame which several peers share, and what it leaves over; `none` when the message is encoded
for each peer. -/
def sharedFrame : Option FanOutFrame × List Bytes :=
  let targets := submitter.fallbackTargets dispatch
  if targets = [] ∨ targets.length = 1 ∧ submitter.mutePolicy ≠ .dropOldest ∨
      targets.any PeerOutbound.requiresPerPeerEncoding ∨ targets.any PeerOutbound.isWs then
    (none, submitter.leftover)
  else
    let (frame, leftover) := buildFanOutFrame submitter.leftover targets.length [dispatch.msg]
    (some frame, leftover)

def giveAll (selects : FanOutPeer → Bool) (frame : Option FanOutFrame)
    (policy : FanOutMutePolicy) (message : Message) :
    List (Nat × FanOutPeer) → Environment → List (Nat × FanOutPeer) × Environment
  | [], env => ([], env)
  | (id, peer) :: rest, env =>
    let (peer, env) := if selects peer then peer.give frame policy message env else (peer, env)
    let (rest, env) := giveAll selects frame policy message rest env
    ((id, peer) :: rest, env)

/-- Give a message to the peers outside the lanes. -/
def dispatchToTargets (env : Environment) : FanOutSubmitter × Environment :=
  let (frame, leftover) := submitter.sharedFrame dispatch
  let (peers, env) := giveAll (submitter.selects dispatch) frame submitter.mutePolicy dispatch.msg
    submitter.peers env
  ({ submitter with peers, leftover }, env)

/-- Push a message for the lanes, when they have peers. -/
def dispatchToLanes (served : Bool) : TrySendResult × FanOutSubmitter :=
  if served then
    let (refused, distributor) := submitter.distributor.tryDispatch submitter.mutePolicy dispatch
    (if refused then .full dispatch.msg else .sent, { submitter with distributor })
  else (.sent, submitter)

def trySend (message : Message) (env : Environment) :
    TrySendResult × FanOutSubmitter × Environment :=
  match prepare submitter.mode message with
  | .error error => (.error error, submitter, env)
  | .ok dispatch =>
    if submitter.fallbackPeerCount = 0 then
      let (result, submitter) := submitter.dispatchToLanes dispatch (0 < submitter.lanePeerCount)
      (result, submitter, env)
    else
      let served := submitter.peers.any fun entry => entry.2.lane.isSome
      let (submitter, env) := submitter.dispatchToTargets dispatch env
      let (result, submitter) := submitter.dispatchToLanes dispatch served
      (result, submitter, env)

/-- The socket after it has given a message to the peers outside the lanes, if there are any. -/
def given (env : Environment) : FanOutSubmitter :=
  if submitter.fallbackPeerCount = 0 then submitter
  else (submitter.dispatchToTargets dispatch env).1

/-- The lanes have peers. -/
def served : Bool :=
  if submitter.fallbackPeerCount = 0 then 0 < submitter.lanePeerCount
  else submitter.peers.any fun entry => entry.2.lane.isSome

theorem trySend_eq {message : Message} {dispatch : LaneDispatch}
    (prepared : prepare submitter.mode message = .ok dispatch) (env : Environment) :
    ∃ drawn, submitter.trySend message env =
      (((submitter.given dispatch env).dispatchToLanes dispatch submitter.served).1,
        ((submitter.given dispatch env).dispatchToLanes dispatch submitter.served).2, drawn) := by
  simp only [trySend, prepared, given, served]
  split_ifs <;> exact ⟨_, rfl⟩

/-- Every selected peer is offered the message, the others stay as they are. -/
theorem forall₂_giveAll (selects : FanOutPeer → Bool) (frame : Option FanOutFrame)
    (policy : FanOutMutePolicy) (message : Message) (peers : List (Nat × FanOutPeer))
    (env : Environment) :
    Forall₂ (fun before after => ∃ drawn, after = if selects before.2 then
        (before.1, (before.2.give frame policy message drawn).1) else before)
      peers (giveAll selects frame policy message peers env).1 := by
  induction peers generalizing env with
  | nil => exact .nil
  | cons entry rest induction =>
    obtain ⟨id, peer⟩ := entry
    unfold giveAll
    refine .cons ⟨env, ?_⟩ (induction _)
    cases selects peer <;> rfl

variable (frame : Option FanOutFrame)

theorem FanOutPeer.queues_give (policy : FanOutMutePolicy) (message : Message) (peer : FanOutPeer)
    (env : Environment) :
    (peer.give frame policy message env).1.target.queues =
      enqueue message peer.target.queues (peer.target.offered frame policy message) := by
  rw [← queues_offer frame policy message peer.target env]
  unfold FanOutPeer.give
  dsimp only
  split_ifs
  · split <;> simp_all [queues, content, OutboundContent.queues]
  · rfl

theorem frame_dispatchToLanes (served : Bool) :
    (submitter.dispatchToLanes dispatch served).2.peers = submitter.peers ∧
      (submitter.dispatchToLanes dispatch served).2.leftover = submitter.leftover := by
  unfold dispatchToLanes
  split_ifs <;> exact ⟨rfl, rfl⟩

/-- The queues of every peer. -/
def queues : List (List Message × List Message) :=
  submitter.peers.map fun entry => entry.2.target.queues

variable (message : Message)

/-- A message is queued to a peer at most once. -/
theorem forall₂_trySend (env : Environment) :
    Forall₂ (fun before after => ∃ choice, after = enqueue message before choice)
      submitter.queues (submitter.trySend message env).2.1.queues := by
  unfold queues
  rw [forall₂_map_left_iff, forall₂_map_right_iff]
  cases prepared : prepare submitter.mode message with
  | error error =>
    rw [trySend, prepared]
    exact forall₂_same.mpr fun _ _ => ⟨none, rfl⟩
  | ok dispatch =>
    obtain rfl := msg_of_prepare prepared
    obtain ⟨_, sent⟩ := submitter.trySend_eq prepared env
    rw [sent, (frame_dispatchToLanes ..).1, given]
    split_ifs
    · exact forall₂_same.mpr fun _ _ => ⟨none, rfl⟩
    · refine (forall₂_giveAll ..).imp ?_
      rintro before after ⟨drawn, rfl⟩
      split_ifs
      · exact ⟨_, FanOutPeer.queues_give ..⟩
      · exact ⟨none, rfl⟩

theorem sharedFrame_of_short {submitter : FanOutSubmitter} {dispatch : LaneDispatch}
    (short : dispatch.msg.len < 512) (nothing : submitter.leftover = []) :
    (∀ frame ∈ (submitter.sharedFrame dispatch).1,
      frame.bytes = encodeMessageFlat dispatch.msg) ∧ (submitter.sharedFrame dispatch).2 = [] := by
  unfold sharedFrame
  dsimp only
  split_ifs
  · exact ⟨nofun, nothing⟩
  · rw [nothing]
    obtain ⟨bytes_eq, left_eq⟩ :=
      buildFanOutFrame_of_short short (submitter.fallbackTargets dispatch).length
    exact ⟨fun _ shared => Option.some.inj shared ▸ bytes_eq, left_eq⟩

theorem leftover_given {submitter : FanOutSubmitter} {dispatch : LaneDispatch}
    (short : dispatch.msg.len < 512) (nothing : submitter.leftover = []) (env : Environment) :
    (submitter.given dispatch env).leftover = [] := by
  unfold given
  split_ifs
  · exact nothing
  · exact (sharedFrame_of_short short nothing).2

theorem policy_given (env : Environment) :
    (submitter.given dispatch env).mutePolicy = submitter.mutePolicy ∧
      (submitter.given dispatch env).distributor = submitter.distributor := by
  unfold given
  split_ifs <;> exact ⟨rfl, rfl⟩

theorem give_block (peer : FanOutPeer) (env : Environment) :
    (peer.give frame .block message env).1 =
      { peer with target := (offer frame .block message peer.target env).2.1 } := by
  unfold FanOutPeer.give
  dsimp only
  rw [if_neg (fun dropping => nomatch dropping.2)]

/-- Under the policy which drops nothing, peers change exactly by what they take. -/
theorem route_give_eq_iff (id : Nat) (peer : FanOutPeer) (env : Environment) :
    FanOutPeer.route (id, (peer.give frame .block message env).1) = FanOutPeer.route (id, peer) ↔
      peer.target.offered frame .block message = none := by
  rw [← (took_offer frame .block message peer.target env nofun).content_eq_iff, give_block]
  simp [FanOutPeer.route]

theorem route_giveAll_eq_iff (selects : FanOutPeer → Bool) (frame : Option FanOutFrame)
    (message : Message) (peers : List (Nat × FanOutPeer)) (env : Environment) :
    (giveAll selects frame .block message peers env).1.map FanOutPeer.route =
        peers.map FanOutPeer.route ↔
      ∀ entry ∈ peers, selects entry.2 = true →
        entry.2.target.offered frame .block message = none := by
  induction peers generalizing env with
  | nil => simp [giveAll]
  | cons entry rest induction =>
    obtain ⟨id, peer⟩ := entry
    unfold giveAll
    dsimp only
    rw [map_cons, map_cons, cons.injEq, forall_mem_cons, induction]
    refine and_congr ?_ Iff.rfl
    cases selected : selects peer with
    | true =>
      rw [if_pos rfl, route_give_eq_iff]
      simp
    | false => simp

variable {submitter after : FanOutSubmitter} {dispatch : LaneDispatch} {returned message : Message}
  {env drawn : Environment}

theorem dispatchToLanes_eq_full {served : Bool}
    (failed : submitter.dispatchToLanes dispatch served = (.full returned, after)) :
    returned = dispatch.msg ∧ submitter.mutePolicy = .block ∧
      ∃ distributor, after = { submitter with distributor } ∧
        distributor.dispatches = submitter.distributor.dispatches := by
  revert failed
  fun_cases submitter.dispatchToLanes dispatch served <;> intro failed
  next refused distributor pushed =>
    cases refused with
    | false => cases failed
    | true =>
      cases failed
      obtain ⟨blocking, dispatches_eq⟩ := LaneDistributor.tryDispatch_refused pushed
      exact ⟨rfl, blocking, distributor, rfl, dispatches_eq⟩
  · cases failed

theorem forall_fallbackTargets_iff (submitter : FanOutSubmitter) (dispatch : LaneDispatch)
    (property : PeerOutbound → Prop) :
    (∀ target ∈ submitter.fallbackTargets dispatch, property target) ↔
      ∀ entry ∈ submitter.peers, submitter.selects dispatch entry.2 = true →
        property entry.2.target := by
  simp only [fallbackTargets, forall_mem_map, mem_filter, and_imp]

/-- A refused message was given to the peers outside the lanes, and then the ring had no room. -/
theorem trySend_full_cases
    (failed : submitter.trySend message env = (.full returned, after, drawn)) :
    ∃ dispatch distributor, prepare submitter.mode message = .ok dispatch ∧
      returned = message ∧ submitter.mutePolicy = .block ∧
      after = { submitter.given dispatch env with distributor } ∧
      distributor.dispatches = submitter.distributor.dispatches := by
  cases prepared : prepare submitter.mode message with
  | error error => simp [trySend, prepared] at failed
  | ok dispatch =>
    obtain ⟨_, sent⟩ := submitter.trySend_eq prepared env
    obtain ⟨result_eq, after_eq, _⟩ : _ ∧ _ ∧ _ := by simpa using failed.symm.trans sent
    obtain ⟨rfl, blocking, distributor, rfl, kept⟩ :=
      dispatchToLanes_eq_full (Prod.ext result_eq.symm after_eq.symm)
    obtain ⟨policy_eq, distributor_eq⟩ := submitter.policy_given dispatch env
    exact ⟨dispatch, distributor, rfl, msg_of_prepare prepared, policy_eq ▸ blocking, rfl,
      distributor_eq ▸ kept⟩

/-- No peer outside the lanes takes the message. -/
def Unwanted (submitter : FanOutSubmitter) (message : Message) : Prop :=
  submitter.fallbackPeerCount ≠ 0 →
    ∀ dispatch, prepare submitter.mode message = .ok dispatch →
      ∀ target ∈ submitter.fallbackTargets dispatch,
        target.offered (submitter.sharedFrame dispatch).1 .block message = none

/-- Peers outside the lanes keep their content exactly when none of them takes the message. -/
theorem route_given_eq_iff (prepared : prepare submitter.mode message = .ok dispatch)
    (blocking : submitter.mutePolicy = .block) (env : Environment) :
    (submitter.given dispatch env).peers.map FanOutPeer.route =
      submitter.peers.map FanOutPeer.route ↔ submitter.Unwanted message := by
  obtain rfl := msg_of_prepare prepared
  have given_iff := (route_giveAll_eq_iff (submitter.selects dispatch)
    (submitter.sharedFrame dispatch).1 dispatch.msg submitter.peers env).trans
      (submitter.forall_fallbackTargets_iff dispatch fun target =>
        target.offered (submitter.sharedFrame dispatch).1 .block dispatch.msg = none).symm
  rw [← blocking] at given_iff
  unfold given
  split_ifs with no_fallback
  · exact iff_of_true rfl fun fallback => absurd no_fallback fallback
  · refine given_iff.trans ⟨fun unwanted _ other other_prepared => ?_, fun unwanted => ?_⟩
    · cases prepared.symm.trans other_prepared
      rwa [blocking] at unwanted
    · rw [blocking]
      exact unwanted no_fallback dispatch prepared

/-- A refused message was queued to no peer and to no lane exactly when no peer outside the lanes
takes it.  Nothing of a message of fewer than 512 parts is left over for the next one. -/
theorem refused_queues_nothing_iff {submitter after : FanOutSubmitter} {message returned : Message}
    {env drawn : Environment}
    (failed : submitter.trySend message env = (.full returned, after, drawn)) :
    ((returned = message ∧
        after.peers.map FanOutPeer.route = submitter.peers.map FanOutPeer.route ∧
        after.distributor.dispatches = submitter.distributor.dispatches) ↔
      submitter.Unwanted message) ∧
    (message.len < 512 → submitter.leftover = [] → after.leftover = []) := by
  obtain ⟨dispatch, distributor, prepared, returned_eq, blocking, rfl, dispatches_eq⟩ :=
    trySend_full_cases failed
  rw [← route_given_eq_iff prepared blocking env]
  refine ⟨⟨fun nothing => nothing.2.1, fun same => ⟨returned_eq, same, dispatches_eq⟩⟩, ?_⟩
  rw [← msg_of_prepare prepared]
  exact fun short nothing => leftover_given short nothing env

/-- A message which was refused and not queued is queued to each peer at most once when it is sent
again. -/
theorem queued_once_of_retry {later : FanOutSubmitter}
    (failed : submitter.trySend message env = (.full returned, after, drawn))
    (unwanted : submitter.Unwanted message) (kept : later.peers = after.peers) :
    Forall₂ (fun before again => ∃ choice, again = enqueue message before choice)
      submitter.queues (later.trySend message drawn).2.1.queues := by
  obtain ⟨dispatch, _, prepared, _, blocking, rfl, _⟩ := trySend_full_cases failed
  have same := (route_given_eq_iff prepared blocking env).mpr unwanted
  have queues_eq : submitter.queues = later.queues := by
    have mapped := congrArg (map fun route => route.content.queues) same
    rw [map_map, map_map] at mapped
    exact mapped.symm.trans (congrArg (map _) kept.symm)
  rw [queues_eq]
  exact later.forall₂_trySend message drawn

/-- A publisher which drops nothing, with a peer on the first lane and one outside the lanes, which
both subscribed to everything.  The ring of the lanes is full. -/
def mixed (inbox : Channel Message) : FanOutSubmitter where
  mode := .subscriptionPrefix
  mutePolicy := .block
  peers := [(0, ⟨⟨[], true⟩, [], false,
      .wire ⟨.new false none none 4096 65536 4 none, .new 4, none, []⟩, some 0, true⟩),
    (1, ⟨⟨[], true⟩, [], false, .inbox inbox, none, true⟩)]
  subscribeAllCount := 2
  fallbackPeerCount := 1
  lanePeerCount := 1
  distributor := ⟨⟨1, [.dispatch ⟨.ofSingle [7], [7], none⟩], false⟩, none⟩
  leftover := []

/-- An inbox of a driver which is full. -/
def fullInbox : Channel Message := ⟨64, .replicate 64 (.ofSingle [7]), false⟩

/-- The peer outside the lanes is full as well. -/
theorem refused_queues_nothing_full : ∃ after drawn,
    (mixed fullInbox).trySend (.ofSingle [9]) .zero = (.full (.ofSingle [9]), after, drawn) ∧
      after.peers.map FanOutPeer.route = (mixed fullInbox).peers.map FanOutPeer.route := by
  obtain ⟨after, drawn, failed⟩ : ∃ after drawn, (mixed fullInbox).trySend (.ofSingle [9]) .zero =
      (.full (.ofSingle [9]), after, drawn) := ⟨_, _, rfl⟩
  refine ⟨after, drawn, failed, ((refused_queues_nothing_iff failed).1.mpr ?_).2.1⟩
  intro _ dispatch prepared
  cases prepared
  decide

/-- The lanes refuse a message which the peer outside them has taken; sent again, it takes the
message twice. -/
theorem refused_message_queued : ∃ after drawn again last,
    (mixed (.new 4)).trySend (.ofSingle [9]) .zero = (.full (.ofSingle [9]), after, drawn) ∧
    { after with distributor := ⟨.new 1, none⟩ }.trySend (.ofSingle [9]) drawn =
      (.sent, again, last) ∧
    (again.peers.getLast?).map (·.2.target.content) =
      some (.inbox ⟨4, [.ofSingle [9], .ofSingle [9]], false⟩) :=
  ⟨_, _, _, _, rfl, rfl, rfl⟩

end FanOutSubmitter

end Omq
