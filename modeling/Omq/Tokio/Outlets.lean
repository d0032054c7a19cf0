import Omq.Library.Channel
import Omq.Tokio.TransmitSlot

/-!
# Where a socket hands its messages over

A routing strategy gives a message to the pipe of a peer, to its transmit slot or to the inbox of
its driver.  An outlet takes the message or refuses it; a refusal leaves what waits in the outlet as
it was.
-/

namespace Omq

/-- What a routing strategy answers to a message. -/
inductive TrySendResult
  | sent
  | full (message : Message)
  | closed
  | error (error : Error)

/-! ## Pipes -/

/-- The ring of a pipe, or the one place of a conflating pipe. -/
inductive SendPipeProducerInner
  | queue (ring : Channel Message)
  | conflate (slot : Option Message) (consumerDropped : Bool)

/-- The socket's end of a pipe to a driver. -/
structure SendPipeProducer where
  inner : SendPipeProducerInner
  /-- The pipe was full since its driver last drained it. -/
  aboveLwm : Bool

namespace SendPipeProducer

variable (pipe : SendPipeProducer)

def trySend (message : Message) : Channel.Answer × SendPipeProducer :=
  match pipe.inner with
  | .queue ring =>
    match ring.trySend message with
    | (.ok, ring) => (.ok, { pipe with inner := .queue ring })
    | (.closed, _) => (.closed, pipe)
    | (.full, _) => (.full, { pipe with aboveLwm := true })
  | .conflate _ consumerDropped =>
    if consumerDropped then (.closed, pipe)
    else (.ok, { pipe with inner := .conflate (some message) false })

end SendPipeProducer

/-! ## Direct writes -/

/-- The socket's own handle on a TCP stream. -/
structure DirectTcpWriter where
  /-- What the next writes come to: an error, or how many bytes the kernel takes. -/
  outcomes : List (Option Nat)
  written : Bytes

/-- Write what the kernel takes; `none` is an error. -/
def DirectTcpWriter.tryWrite (direct : DirectTcpWriter) (data : Bytes) :
    Option Nat × DirectTcpWriter :=
  match direct.outcomes with
  | [] => (some 0, direct)
  | none :: outcomes => (none, { direct with outcomes })
  | some count :: outcomes =>
    let count := min count data.length
    (some count, { outcomes, written := direct.written ++ data.take count })

namespace PeerTransmitSlot

theorem entries_of_hasArenaOnly {slot : PeerTransmitSlot} (arena : slot.eq.hasArenaOnly = true) :
    slot.eq.entries = [] := by
  unfold FrameBuffer.hasArenaOnly at arena
  simpa using (Bool.and_eq_true_iff.mp arena).1

variable (slot : PeerTransmitSlot)

/-- Write from a slot whose content is all in the arena; `none` is an error of the stream. -/
def tryDirectWriteArenaOnly (direct : DirectTcpWriter) :
    Option Bool × PeerTransmitSlot × DirectTcpWriter :=
  if arena : slot.eq.hasArenaOnly = true then
    match direct.tryWrite slot.eq.arena with
    | (none, direct) => (none, slot, direct)
    | (some count, direct) =>
      let eq := if 0 < count then slot.eq.advanceArena count (entries_of_hasArenaOnly arena)
        else slot.eq
      let queuedMsgs := if eq.isEmpty then 0 else slot.queuedMsgs
      (some true, ({ slot with eq, queuedMsgs }.settle).2, direct)
  else (some false, slot, direct)

def answer (message : Message) : TryFrameResult :=
  (slot.tryEncode message .zero).1

/-- The answer does not depend on random masks. -/
theorem tryEncode_answer (message : Message) (env : Environment) :
    (slot.tryEncode message env).1 = slot.answer message := by
  unfold answer tryEncode
  split
  · rfl
  · split
    · rfl
    · split <;> rfl

/-- A slot which does not take a message keeps what waits in it, and draws nothing. -/
theorem tryEncode_of_refused {slot : PeerTransmitSlot} {message : Message}
    (refused : slot.answer message ≠ .ok) (env : Environment) :
    (slot.tryEncode message env).2.1.eq = slot.eq ∧
      (slot.tryEncode message env).2.1.queuedMsgs = slot.queuedMsgs ∧
      (slot.tryEncode message env).2.2 = env := by
  rw [← tryEncode_answer slot message env] at refused
  obtain ⟨_, _, after, member, encoded⟩ | ⟨_, _, _, _, encoded⟩ := slot.tryEncode_cases message env
  all_goals rw [encoded] at refused ⊢
  · obtain rfl | rfl : after = slot ∨ after = slot.refuse := by simpa using member
    all_goals exact ⟨rfl, rfl, rfl⟩
  · exact absurd rfl refused

end PeerTransmitSlot

/-! ## Peers -/

structure WirePeer where
  slot : PeerTransmitSlot
  inbox : Channel Message
  direct : Option DirectTcpWriter
  taken : List Message

inductive PeerOutbound
  | wire (peer : WirePeer)
  | inbox (channel : Channel Message)

variable (channel : Channel Message)

def trySendInbox (message : Message) : TryFrameResult × Channel Message :=
  match channel.trySend message with
  | (.ok, channel) => (.ok, channel)
  | (.full, channel) => (.full, channel)
  | (.closed, channel) => (.dead, channel)

theorem snd_trySendInbox (message : Message) :
    (trySendInbox channel message).2 = (channel.trySend message).2 := by
  unfold trySendInbox
  rcases channel.trySend message with ⟨_ | _ | _, rest⟩ <;> rfl

/-- What a peer on a stream was given and has not sent, and what was sent directly. -/
structure WireContent where
  eq : FrameBuffer
  queuedMsgs : Nat
  inbox : Channel Message
  direct : Option DirectTcpWriter
  taken : List Message

inductive OutboundContent
  | wire (content : WireContent)
  | inbox (channel : Channel Message)

/-- The queues of a peer: its transmit slot, and the inbox of its driver. -/
inductive OutboundQueue
  | slot
  | inbox
  deriving DecidableEq

/-- A channel which is the inbox of a peer, when it takes a message. -/
def inboxQueue : Option OutboundQueue :=
  if channel.takes then some .inbox else none

/-- The messages which the slot took so far, and those which wait in the inbox. -/
def OutboundContent.queues : OutboundContent → List Message × List Message
  | .wire content => (content.taken, content.inbox.items)
  | .inbox channel => ([], channel.items)

namespace PeerOutbound

variable (target : PeerOutbound) (message : Message)

def tryEncode (env : Environment) : TryFrameResult × PeerOutbound × Environment :=
  match target with
  | .inbox channel =>
    let (result, channel) := trySendInbox channel message
    (result, .inbox channel, env)
  | .wire peer =>
    match peer.direct with
    | none =>
      let (result, letters) := trySendInbox peer.inbox message
      (result, .wire { peer with inbox := letters }, env)
    | some direct =>
      match peer.slot.tryEncode message env with
      | (.ineligible, slot, env) =>
        let (result, letters) := trySendInbox peer.inbox message
        (result, .wire { peer with slot, inbox := letters }, env)
      | (.ok, slot, env) =>
        let taken := peer.taken ++ [message]
        match slot.tryDirectWriteArenaOnly direct with
        | (some _, slot, direct) =>
          -- what the arena does not hold stays for the driver
          (.ok, .wire { peer with slot, direct := some direct, taken }, env)
        | (none, slot, direct) =>
          (.dead, .wire { peer with slot, direct := some direct, taken }, env)
      | (result, slot, env) => (result, .wire { peer with slot }, env)

def requiresPerPeerEncoding : PeerOutbound → Bool
  | .wire peer => peer.slot.hasTransform
  | .inbox _ => false

def isWs : PeerOutbound → Bool
  | .wire peer => peer.slot.wsRole.isSome
  | .inbox _ => false

def content : PeerOutbound → OutboundContent
  | .wire peer => .wire ⟨peer.slot.eq, peer.slot.queuedMsgs, peer.inbox, peer.direct, peer.taken⟩
  | .inbox channel => .inbox channel

def queues : List Message × List Message := target.content.queues

/-- The queue which takes a message. -/
def takes : Option OutboundQueue :=
  match target with
  | .inbox channel => inboxQueue channel
  | .wire peer =>
    match peer.direct with
    | none => inboxQueue peer.inbox
    | some _ =>
      match peer.slot.answer message with
      | .ok => some .slot
      | .ineligible => inboxQueue peer.inbox
      | _ => none

def enqueue (queues : List Message × List Message) :
    Option OutboundQueue → List Message × List Message
  | none => queues
  | some .slot => (queues.1 ++ [message], queues.2)
  | some .inbox => (queues.1, queues.2 ++ [message])

variable {message : Message}

theorem enqueue_eq_self_iff {queues : List Message × List Message} {choice : Option OutboundQueue} :
    enqueue message queues choice = queues ↔ choice = none := by
  rcases choice with _ | _ | _ <;> simp [enqueue, Prod.ext_iff]

/-- An outlet after a message was offered to it. -/
structure Took (message : Message) (before after : PeerOutbound) (choice : Option OutboundQueue) :
    Prop where
  queues : after.queues = enqueue message before.queues choice
  unchanged : choice = none → after.content = before.content

/-- What waits in an outlet changes exactly when the message is taken. -/
theorem Took.content_eq_iff {before after : PeerOutbound} {choice : Option OutboundQueue}
    (took : Took message before after choice) : after.content = before.content ↔ choice = none := by
  refine ⟨fun same => ?_, took.unchanged⟩
  rw [← enqueue_eq_self_iff, ← took.queues]
  exact congrArg OutboundContent.queues same

theorem took_inbox (channel : Channel Message) (message : Message) :
    Took message (.inbox channel) (.inbox (channel.trySend message).2) (inboxQueue channel) := by
  unfold inboxQueue
  by_cases taken : channel.takes = true
  · rw [if_pos taken, Channel.trySend_of_takes taken]
    exact ⟨rfl, nofun⟩
  · rw [if_neg taken, (Channel.trySend_of_not_takes taken message).2]
    exact ⟨rfl, fun _ => rfl⟩

/-- A slot which stays as it is, while the inbox is offered the message. -/
theorem took_letters {peer : WirePeer} {slot : PeerTransmitSlot} (eq_same : slot.eq = peer.slot.eq)
    (count_same : slot.queuedMsgs = peer.slot.queuedMsgs) (message : Message) :
    Took message (.wire peer)
      (.wire { peer with slot, inbox := (trySendInbox peer.inbox message).2 })
      (inboxQueue peer.inbox) := by
  rw [snd_trySendInbox]
  unfold inboxQueue
  by_cases taken : peer.inbox.takes = true
  · rw [if_pos taken, Channel.trySend_of_takes taken]
    exact ⟨rfl, nofun⟩
  · rw [if_neg taken, (Channel.trySend_of_not_takes taken message).2]
    exact ⟨rfl, fun _ => by simp [content, eq_same, count_same]⟩

/-- A message is taken by one queue of the outlet, or changes nothing. -/
theorem took_tryEncode (message : Message) (env : Environment) :
    Took message target (target.tryEncode message env).2.1 (target.takes message) := by
  cases target with
  | inbox channel =>
    have took := took_inbox channel message
    rwa [← snd_trySendInbox] at took
  | wire peer =>
    obtain ⟨slot, letters, direct, taken⟩ := peer
    cases direct with
    | none => exact took_letters rfl rfl message
    | some direct =>
      have answer_eq := slot.tryEncode_answer message env
      have kept : slot.answer message ≠ .ok → _ :=
        fun refused => slot.tryEncode_of_refused refused env
      simp only [tryEncode, takes, ← answer_eq]
      rw [← answer_eq] at kept
      rcases encoded : slot.tryEncode message env with ⟨result, after, drawn⟩
      simp only [encoded] at kept
      cases result with
      | ok =>
        rcases written : after.tryDirectWriteArenaOnly direct with ⟨_ | _, last, direct⟩ <;>
          simp only [written] <;> exact ⟨rfl, nofun⟩
      | ineligible =>
        obtain ⟨eq_same, count_same, _⟩ := kept nofun
        exact took_letters eq_same count_same message
      | full | dead =>
        obtain ⟨eq_same, count_same, _⟩ := kept nofun
        exact ⟨rfl, fun _ => by simp [content, eq_same, count_same]⟩

/-- A full outlet takes nothing and draws no mask key. -/
theorem tryEncode_of_full {target : PeerOutbound} {env : Environment}
    (full : (target.tryEncode message env).1 = .full) :
    target.takes message = none ∧ (target.tryEncode message env).2.2 = env := by
  have refuses {channel : Channel Message} (full : (trySendInbox channel message).1 = .full) :
      inboxQueue channel = none := by
    refine if_neg fun taken => ?_
    rw [trySendInbox, Channel.trySend_of_takes taken] at full
    cases full
  cases target with
  | inbox channel => exact ⟨refuses full, rfl⟩
  | wire peer =>
    cases direct_eq : peer.direct with
    | none =>
      simp only [tryEncode, direct_eq] at full
      simp only [takes, tryEncode, direct_eq]
      exact ⟨refuses full, trivial⟩
    | some direct =>
      have answer_eq := peer.slot.tryEncode_answer message env
      have kept : peer.slot.answer message ≠ .ok → _ :=
        fun refused => (peer.slot.tryEncode_of_refused refused env).2.2
      simp only [tryEncode, direct_eq] at full
      simp only [takes, tryEncode, direct_eq]
      rcases encoded : peer.slot.tryEncode message env with ⟨result, slot, after⟩
      rw [encoded] at answer_eq full kept
      rw [← answer_eq] at kept ⊢
      cases result with
      | ok =>
        rcases written : slot.tryDirectWriteArenaOnly direct with ⟨_ | _, slot, direct⟩ <;>
          simp [written] at full
      | ineligible => exact ⟨refuses full, kept (by simp)⟩
      | full | dead => exact ⟨by simp, kept (by simp)⟩

end PeerOutbound

end Omq
