import Omq.Proto.Transform.Codec
import Omq.Tokio.Writer

/-!
# The transmit slot of a peer

Socket handles encode messages for one peer into a shared frame buffer, and the peer's driver
writes it out.  Eligibility is decided for every message: the handshake must be done, the slot must
have room, and a compression transform must be sure to pass the message through.
-/

namespace Omq

/-- What decides whether a socket handle may frame a message itself. -/
structure HandleFrameState where
  /-- A security mechanism encrypts frames. -/
  usesCrypto : Bool
  handshakeDone : Bool
  hasTransform : Bool
  /-- Sentinel and threshold of parts which pass the transform unchanged. -/
  transformPassthrough : Option (Bytes × Nat)
  isWs : Bool
  queuedBytes : Nat
  queuedMessages : Nat

structure HandleFrameCaps where
  byteCap : Nat
  messageCap : Nat

/-- How a socket handle may frame a message. -/
inductive HandleFrameDecision
  | plain
  | webSocket
  | transformPassthrough (sentinel : Bytes)
  | full
  | ineligible

/-- Whether every part of a message is shorter than the passthrough threshold. -/
def passesThrough (passthrough : Option (Bytes × Nat)) (message : Message) : Option Bytes :=
  (passthrough.filter fun entry => message.parts.all fun part => part.length < entry.2).map Prod.fst

def decideHandleFrame (state : HandleFrameState) (caps : HandleFrameCaps) (message : Message) :
    HandleFrameDecision :=
  if state.usesCrypto ∨ !state.handshakeDone then .ineligible
  else if caps.byteCap ≤ state.queuedBytes ∨ caps.messageCap ≤ state.queuedMessages then .full
  else if state.isWs then
    if state.hasTransform then .ineligible else .webSocket
  else if !state.hasTransform then .plain
  else
    match passesThrough state.transformPassthrough message with
    | some sentinel => .transformPassthrough sentinel
    | none => .ineligible

/-- The answer of a slot to a message. -/
inductive TryFrameResult
  | ok
  | dead
  | full
  | ineligible
  deriving DecidableEq

def transmitSlotCapDefault : Nat := 512 * 1024

/-- Divisor of the caps which gives the low-water mark. -/
def transmitSlotLwmDivisor : Nat := 2

structure PeerTransmitSlot where
  eq : FrameBuffer
  cap : Nat
  msgCap : Nat
  handshakeDone : Bool
  hasTransform : Bool
  compressionKind : Option CompressionKind
  transformPassthrough : Option (Bytes × Nat)
  wsRole : Option WsRole
  dead : Bool
  /-- Messages waiting, as far as they are counted. -/
  queuedMsgs : Nat
  /-- The slot was above the low-water mark since senders were last woken. -/
  aboveLwm : Bool
  /-- A dictionary for fan-out waits in the slot. -/
  fanoutDictQueued : Bool
  /-- A dictionary for fan-out was taken out for writing. -/
  fanoutDictShipped : Bool
  /-- Fan-out still sends to the peer. -/
  fanoutActive : Bool

namespace PeerTransmitSlot

def new (hasTransform : Bool) (compressionKind : Option CompressionKind)
    (transformPassthrough : Option (Bytes × Nat)) (arenaThreshold cap msgCap : Nat)
    (wsRole : Option WsRole) : PeerTransmitSlot where
  eq := .withConfigLazy arenaThreshold
  cap := cap
  msgCap := max msgCap 1
  handshakeDone := false
  hasTransform := hasTransform
  compressionKind := compressionKind
  transformPassthrough := transformPassthrough
  wsRole := wsRole
  dead := false
  queuedMsgs := 0
  aboveLwm := false
  fanoutDictQueued := false
  fanoutDictShipped := false
  fanoutActive := true

variable (slot : PeerTransmitSlot)

def isEmpty : Bool := slot.eq.isEmpty

def isBelowLwm (queuedBytes queuedMessages : Nat) : Bool :=
  queuedBytes ≤ slot.cap / transmitSlotLwmDivisor &&
    queuedMessages ≤ slot.msgCap / transmitSlotLwmDivisor

/-- Count one more message behind the given buffer. -/
def accept (eq : FrameBuffer) : PeerTransmitSlot :=
  let queuedMsgs := slot.queuedMsgs + 1
  { slot with
    eq := eq
    queuedMsgs := queuedMsgs
    aboveLwm := slot.aboveLwm || !slot.isBelowLwm eq.totalBytes queuedMsgs }

/-- Refuse a message for lack of room. -/
def refuse : PeerTransmitSlot := { slot with aboveLwm := true }

variable (message : Message)

def tryEncode (env : Environment) : TryFrameResult × PeerTransmitSlot × Environment :=
  if slot.dead then (.dead, slot, env)
  else if !slot.handshakeDone then (.ineligible, slot, env)
  else
    match decideHandleFrame ⟨false, true, slot.hasTransform, slot.transformPassthrough,
        slot.wsRole.isSome, slot.eq.totalBytes, slot.queuedMsgs⟩
          ⟨slot.cap, slot.msgCap⟩ message with
    | .plain => (.ok, slot.accept (slot.eq.frame message), env)
    | .webSocket =>
      let (eq, env) := slot.eq.frameWs message (slot.wsRole.getD .server) env
      (.ok, slot.accept eq, env)
    | .transformPassthrough sentinel =>
      (.ok, slot.accept (slot.eq.framePrefixed sentinel message), env)
    | .full => (.full, slot.refuse, env)
    | .ineligible => (.ineligible, slot, env)

def tryPushEncoded (chunks : List Bytes) : TryFrameResult × PeerTransmitSlot :=
  if slot.dead then (.dead, slot)
  else if slot.msgCap ≤ slot.queuedMsgs ∨ 0 < slot.queuedMsgs ∧
      slot.cap ≤ saturatingAdd slot.eq.totalBytes chunks.flatten.length then
    (.full, slot.refuse)
  else (.ok, slot.accept (slot.eq.pushSharedChunks chunks))

/-- Copy an encoded message into the arena. -/
def tryPushPreFramedNoSignal (data : Bytes) : TryFrameResult × PeerTransmitSlot :=
  if slot.dead then (.dead, slot)
  else if slot.cap ≤ slot.eq.totalBytes ∨ slot.msgCap ≤ slot.queuedMsgs then (.full, slot.refuse)
  else (.ok, slot.accept (slot.eq.pushPreFramed data))

/-- Evict the oldest messages until one of `size` bytes fits; `none` when all that is left is
protected.  What was evicted before that stays evicted. -/
def evict (slot : PeerTransmitSlot) (size : Nat) :
    (queuedMsgs : Nat) → FrameBuffer → Option Nat × FrameBuffer
  | 0, eq => (some 0, eq)
  | queuedMsgs + 1, eq =>
    if slot.cap ≤ saturatingAdd eq.totalBytes size ∨ slot.msgCap ≤ queuedMsgs + 1 then
      let (popped, eq) := eq.popOldestUnprotectedEntry
      if popped then slot.evict size queuedMsgs eq else (none, eq)
    else (some (queuedMsgs + 1), eq)

/-- Queue one encoded message as one chunk, evicting older messages to make room. -/
def tryPushFanoutDropOldest (chunk : Bytes) (isProtected : Bool) :
    TryFrameResult × PeerTransmitSlot :=
  if slot.dead then (.dead, slot)
  else
    match slot.evict chunk.length slot.queuedMsgs slot.eq with
    | (none, eq) => (.full, { slot with eq := eq, aboveLwm := true })
    | (some queuedMsgs, eq) =>
      (.ok, { slot with
        queuedMsgs := queuedMsgs
        fanoutDictQueued := slot.fanoutDictQueued || isProtected }.accept
          (eq.pushExternal chunk isProtected))

/-- A dictionary for fan-out is queued or was written. -/
def fanoutDictQueuedOrShipped : Bool :=
  slot.fanoutDictQueued || slot.fanoutDictShipped

def markFanoutDictShipped : PeerTransmitSlot :=
  { slot with fanoutDictQueued := false, fanoutDictShipped := true }

def deactivateFanout : PeerTransmitSlot :=
  { slot with fanoutActive := false }

/-- Settle the counts after a drain; the result is whether senders are woken. -/
def settle : Bool × PeerTransmitSlot :=
  let belowLwm := slot.isBelowLwm slot.eq.totalBytes slot.queuedMsgs
  (belowLwm && slot.aboveLwm,
    { slot with
      aboveLwm := slot.aboveLwm && !belowLwm
      fanoutActive := slot.fanoutActive || belowLwm })

/-- Take everything out of a slot whose content is all in the arena. -/
def tryDrainArenaOnly : Option (Bytes × Bool × PeerTransmitSlot) :=
  if slot.eq.hasArenaOnly then
    some (slot.eq.arena, { slot with eq := slot.eq.clearArena, queuedMsgs := 0 }.settle)
  else none

/-- Take chunks out of the slot; counts follow the number of chunks. -/
def drain (maxChunks : Nat) : List Bytes × Bool × PeerTransmitSlot :=
  let (chunks, protectedDrained, eq) := slot.eq.drain maxChunks
  let queuedMsgs := if eq.isEmpty then 0 else slot.queuedMsgs - chunks.length
  let slot := if 0 < protectedDrained then slot.markFanoutDictShipped else slot
  (chunks, { slot with eq := eq, queuedMsgs := queuedMsgs }.settle)

/-- The peer is gone: nothing will be written any more. -/
def markDead : PeerTransmitSlot :=
  { slot with
    eq := .withConfigLazy slot.eq.arenaThreshold
    dead := true
    queuedMsgs := 0
    aboveLwm := false
    fanoutDictQueued := false
    fanoutDictShipped := false
    fanoutActive := false }

/-! ## What a slot answers -/

/-- A dead slot stays as it is; any other refuses, or it accepts and then has the given buffer. -/
def Answered (eq : FrameBuffer) (answer : TryFrameResult × PeerTransmitSlot) : Prop :=
  slot.dead = true ∧ answer = (.dead, slot) ∨ slot.dead = false ∧
    (answer = (.full, slot.refuse) ∨ slot.queuedMsgs < slot.msgCap ∧ answer = (.ok, slot.accept eq))

theorem answered_tryPushEncoded (chunks : List Bytes) :
    slot.Answered (slot.eq.pushSharedChunks chunks) (slot.tryPushEncoded chunks) := by
  fun_cases slot.tryPushEncoded chunks with
  | case1 dead => exact .inl ⟨dead, rfl⟩
  | case2 alive => exact .inr ⟨Bool.eq_false_iff.mpr alive, .inl rfl⟩
  | case3 alive => exact .inr ⟨Bool.eq_false_iff.mpr alive, .inr ⟨by omega, rfl⟩⟩

theorem answered_tryPushPreFramedNoSignal (data : Bytes) :
    slot.Answered (slot.eq.pushPreFramed data) (slot.tryPushPreFramedNoSignal data) := by
  fun_cases slot.tryPushPreFramedNoSignal data with
  | case1 dead => exact .inl ⟨dead, rfl⟩
  | case2 alive => exact .inr ⟨Bool.eq_false_iff.mpr alive, .inl rfl⟩
  | case3 alive => exact .inr ⟨Bool.eq_false_iff.mpr alive, .inr ⟨by omega, rfl⟩⟩

/-- The framing does not change, and what waits only by what is accepted. -/
theorem Answered.content {slot : PeerTransmitSlot} {eq : FrameBuffer} {data : Bytes}
    {answer : TryFrameResult × PeerTransmitSlot} (answered : slot.Answered eq answer)
    (grown : eq.content = slot.eq.content ++ data) :
    answer.2.wsRole = slot.wsRole ∧
      (answer.2.eq.content = slot.eq.content ∨ answer.2.eq.content = slot.eq.content ++ data) := by
  obtain ⟨-, rfl⟩ | ⟨-, rfl | ⟨-, rfl⟩⟩ := answered
  · exact ⟨rfl, .inl rfl⟩
  · exact ⟨rfl, .inl rfl⟩
  · exact ⟨rfl, .inr grown⟩

def encoding (env : Environment) : Bytes :=
  match slot.wsRole with
  | some role => (FrameBuffer.encodeSlicesFlatWs role message.parts env).1
  | none =>
    if slot.hasTransform then
      encodeMessagePrefixedFlat ((passesThrough slot.transformPassthrough message).getD []) message
    else encodeMessageFlat message

/-- A message which is not taken leaves what waits, and draws nothing. -/
theorem tryEncode_cases (env : Environment) :
    (∃ result ≠ .ok, ∃ after ∈ [slot, slot.refuse],
      slot.tryEncode message env = (result, after, env)) ∨
    slot.queuedMsgs < slot.msgCap ∧ ∃ (eq : FrameBuffer) (drawn : Environment),
      eq.content = slot.eq.content ++ slot.encoding message env ∧
        slot.tryEncode message env = (.ok, slot.accept eq, drawn) := by
  by_cases dead : slot.dead = true
  · exact .inl ⟨.dead, nofun, slot, by simp, if_pos dead⟩
  by_cases early : (!slot.handshakeDone) = true
  · exact .inl ⟨.ineligible, nofun, slot, by simp, (if_neg dead).trans (if_pos early)⟩
  by_cases full : slot.cap ≤ slot.eq.totalBytes ∨ slot.msgCap ≤ slot.queuedMsgs
  · simp only [tryEncode, dead, early, decideHandleFrame, full]
    exact .inl ⟨.full, nofun, slot.refuse, by simp, rfl⟩
  have room : slot.queuedMsgs < slot.msgCap := by omega
  simp only [tryEncode, dead, early, encoding, decideHandleFrame, full]
  cases slot.wsRole with
  | some role =>
    cases slot.hasTransform with
    | true => exact .inl ⟨.ineligible, nofun, slot, by simp, rfl⟩
    | false => exact .inr ⟨room, _, _, slot.eq.content_pushPreFramed _, rfl⟩
  | none =>
    cases slot.hasTransform with
    | false => exact .inr ⟨room, _, _, slot.eq.content_frame message, rfl⟩
    | true =>
      cases passesThrough slot.transformPassthrough message with
      | none => exact .inl ⟨.ineligible, nofun, slot, by simp, rfl⟩
      | some sentinel =>
        exact .inr ⟨room, _, _, slot.eq.content_framePrefixed sentinel message, rfl⟩

/-- With plain framing a message adds its frames, possibly behind a sentinel, or nothing. -/
theorem content_tryEncode {slot : PeerTransmitSlot} (plain : slot.wsRole = none)
    (message : Message) (env : Environment) :
    (slot.tryEncode message env).2.1.wsRole = slot.wsRole ∧
      ((slot.tryEncode message env).2.1.eq.content = slot.eq.content ∨
        ∃ pre, (slot.tryEncode message env).2.1.eq.content =
          slot.eq.content ++ encodeMessagePrefixedFlat pre message) := by
  obtain ⟨_, _, after, member, encoded⟩ | ⟨_, eq, _, content, encoded⟩ :=
    slot.tryEncode_cases message env
  all_goals rw [encoded]
  · obtain rfl | rfl : after = slot ∨ after = slot.refuse := by simpa using member
    all_goals exact ⟨rfl, .inl rfl⟩
  · refine ⟨rfl, .inr ?_⟩
    rw [encoding, plain] at content
    split_ifs at content
    exacts [⟨_, content⟩, ⟨[], content⟩]

/-- Eviction takes out frames which are not protected, and all of them where it fails. -/
theorem frames_evict (size queuedMsgs : Nat) (eq : FrameBuffer) :
    (slot.evict size queuedMsgs eq).2.frames.Sublist eq.frames ∧
      (slot.evict size queuedMsgs eq).2.frames.filter Prod.snd = eq.frames.filter Prod.snd ∧
      ((slot.evict size queuedMsgs eq).1 = none →
        (slot.evict size queuedMsgs eq).2.frames = eq.frames.filter Prod.snd) := by
  have filter_eraseP (frames : List (Bytes × Bool)) :
      (frames.eraseP (!·.2)).filter Prod.snd = frames.filter Prod.snd := by
    induction frames with
    | nil => rfl
    | cons frame rest induction => cases kept : frame.2 <;> simp [kept, induction]
  fun_induction slot.evict size queuedMsgs eq with
  | case1 | case4 => exact ⟨List.Sublist.refl _, rfl, nofun⟩
  | case2 _ eq _ after pop_eq induction =>
    have erased := eq.frames_popOldestUnprotectedEntry.2
    rw [pop_eq] at erased
    rw [erased, filter_eraseP] at induction
    exact ⟨induction.1.trans List.eraseP_sublist, induction.2⟩
  | case3 _ eq _ popped after pop_eq failed =>
    obtain ⟨none_left, erased⟩ := eq.frames_popOldestUnprotectedEntry
    rw [pop_eq] at none_left erased
    have all : ∀ frame ∈ eq.frames, frame.2 = true := by
      simpa [failed, List.any_eq_false] using none_left.symm
    dsimp only at erased ⊢
    rw [erased, List.eraseP_of_forall_not (by simpa using all), List.filter_eq_self.mpr all]
    exact ⟨List.Sublist.refl _, rfl, fun _ => rfl⟩

theorem chunks_evict (size queuedMsgs : Nat) (eq : FrameBuffer) :
    (slot.evict size queuedMsgs eq).2.chunks.Sublist eq.chunks := by
  rw [← FrameBuffer.map_fst_frames, ← FrameBuffer.map_fst_frames]
  exact (slot.frames_evict size queuedMsgs eq).1.map _

/-- Room for a frame is made by dropping old messages, or there is none. -/
theorem tryPushFanoutDropOldest_cases (chunk : Bytes) (isProtected : Bool) :
    slot.dead = true ∧ slot.tryPushFanoutDropOldest chunk isProtected = (.dead, slot) ∨
      slot.dead = false ∧ ∃ eq : FrameBuffer,
        slot.evict chunk.length slot.queuedMsgs slot.eq = (none, eq) ∧
          slot.tryPushFanoutDropOldest chunk isProtected =
            (.full, { slot with eq, aboveLwm := true }) ∨
        ∃ queuedMsgs, slot.evict chunk.length slot.queuedMsgs slot.eq = (some queuedMsgs, eq) ∧
          slot.tryPushFanoutDropOldest chunk isProtected =
            (.ok, { slot with
              queuedMsgs
              fanoutDictQueued := slot.fanoutDictQueued || isProtected }.accept
                (eq.pushExternal chunk isProtected)) := by
  fun_cases slot.tryPushFanoutDropOldest chunk isProtected with
  | case1 dead => exact .inl ⟨dead, rfl⟩
  | case2 alive eq evicted =>
    exact .inr ⟨Bool.eq_false_iff.mpr alive, eq, .inl ⟨evicted, rfl⟩⟩
  | case3 alive queuedMsgs eq evicted =>
    exact .inr ⟨Bool.eq_false_iff.mpr alive, eq, .inr ⟨queuedMsgs, evicted, rfl⟩⟩

/-- A push which may evict leaves what eviction left, and its own chunk when it is accepted. -/
theorem content_tryPushFanoutDropOldest (chunk : Bytes) (isProtected : Bool) :
    (slot.tryPushFanoutDropOldest chunk isProtected).2.wsRole = slot.wsRole ∧
      ((slot.tryPushFanoutDropOldest chunk isProtected).2.eq.content = slot.eq.content ∨
        ∃ data ∈ [[], chunk], (slot.tryPushFanoutDropOldest chunk isProtected).2.eq.content =
          (slot.evict chunk.length slot.queuedMsgs slot.eq).2.content ++ data) := by
  obtain ⟨-, pushed⟩ | ⟨-, eq, ⟨evicted, pushed⟩ | ⟨_, evicted, pushed⟩⟩ :=
    slot.tryPushFanoutDropOldest_cases chunk isProtected
  · rw [pushed]
    exact ⟨rfl, .inl rfl⟩
  all_goals rw [evicted, pushed]
  · exact ⟨rfl, .inr ⟨[], by simp, (List.append_nil _).symm⟩⟩
  · exact ⟨rfl, .inr ⟨chunk, by simp, eq.content_pushExternal chunk isProtected⟩⟩

/-! ## What waits in a slot -/

/-- A drain takes a front part of what waits. -/
theorem content_drain (maxChunks : Nat) :
    (slot.drain maxChunks).1.flatten ++ (slot.drain maxChunks).2.2.eq.content = slot.eq.content :=
  slot.eq.drain_append maxChunks

theorem content_tryDrainArenaOnly {slot after : PeerTransmitSlot} {arena : Bytes} {woken : Bool}
    (drained : slot.tryDrainArenaOnly = some (arena, woken, after)) :
    arena = slot.eq.content ∧ after.eq.content = [] := by
  unfold tryDrainArenaOnly at drained
  split at drained
  next arena_only =>
    cases drained
    simp only [FrameBuffer.hasArenaOnly, Bool.and_eq_true, List.isEmpty_iff] at arena_only
    exact ⟨(FrameBuffer.content_of_entries_nil arena_only.1).symm, rfl⟩
  · contradiction

theorem content_of_isEmpty {slot : PeerTransmitSlot} (empty : slot.isEmpty = true) :
    slot.eq.content = [] := by
  simp only [isEmpty, FrameBuffer.isEmpty, Bool.and_eq_true, List.isEmpty_iff, beq_iff_eq] at empty
  simp [FrameBuffer.content, empty.1, empty.2]

end PeerTransmitSlot

end Omq
