import Omq.Proto.Connection.Feed
import Omq.Tokio.Steady

/-!
# Batches of a driver

Between two turns nothing waits in the local frame buffer or in the offload pipeline, so a flush
which is given up has nothing to lose.  A batch is framed message by message in the order in which
it was taken out of its queue, in whatever order the offloaded compressions end.
-/

namespace Omq

open Attempt PartialWrite Transition Outgoing

namespace Driver

variable {driver : Driver}

theorem splitBatch_append (maxBytes count bytes : Nat) (queue : List Message) :
    (splitBatch maxBytes count bytes queue).1 ++ (splitBatch maxBytes count bytes queue).2 =
      queue := by
  induction queue generalizing count bytes with
  | nil => rfl
  | cons message rest induction =>
    unfold splitBatch
    split
    · exact congrArg (message :: ·) (induction _ _)
    · rfl

/-- Messages are taken up to the first other command or the end of the batch. -/
theorem takeInbox_append (maxBytes count bytes : Nat) (inbox : List PeerDriverCommand) :
    (takeInbox maxBytes count bytes inbox).1.map PeerDriverCommand.sendMessage ++
        (takeInbox maxBytes count bytes inbox).2.1.toList ++
        (takeInbox maxBytes count bytes inbox).2.2 = inbox ∧
      ∀ message, (takeInbox maxBytes count bytes inbox).2.1 ≠ some (.sendMessage message) := by
  induction inbox generalizing count bytes with
  | nil => simp [takeInbox]
  | cons command rest induction =>
    unfold takeInbox
    cases command with
    | sendMessage message =>
      dsimp only
      split
      · obtain ⟨append, other⟩ := induction (count + 1) (bytes + message.byteLen)
        exact ⟨congrArg (PeerDriverCommand.sendMessage message :: ·) append, other⟩
      · simp
    | _ =>
      dsimp only
      split <;> simp

/-- All that was encoded is written, and the queues are as they were. -/
structure Sent (driver : Driver) (encoded : Outgoing) (after : Driver) : Prop where
  inbox_eq : after.inbox = driver.inbox
  sendPipe_eq : after.sendPipe = driver.sendPipe
  written_eq : after.written =
    driver.written ++ encoded.eq.content ++ encoded.connection.pollTransmit

theorem sent_flushAll {outcomes : List Outcome} (running : (driver.flushAll outcomes).running) :
    driver.Sent driver.outgoing (driver.flushAll outcomes) := by
  unfold flushAll at running ⊢
  dsimp only at running ⊢
  split
  next done =>
    rw [if_pos done] at running
    unfold conclude at running ⊢
    split
    next drained =>
      have framed := (FrameBuffer.flushFrameBuffer_done done).1
      have queued := TransmitQueue.source.written_of_flush_done drained
      exact ⟨rfl, rfl, congrArg₂ (driver.written ++ · ++ ·) framed queued⟩
    next failed => simp [failed] at running
  next failed => simp [failed] at running

theorem running_andThen {next : Driver → Driver} (running : (driver.andThen next).running) :
    driver.running ∧ driver.andThen next = next driver := by
  unfold andThen at running ⊢
  split
  next goes_on => exact ⟨goes_on, rfl⟩
  next stopped =>
    rw [if_neg stopped] at running
    exact absurd running stopped

theorem perform_eq_of_running {α : Type} {method : OutgoingM α}
    (running : (driver.perform method).running) : ∃ value outgoing,
    method driver.outgoing = .ok value outgoing ∧
      driver.perform method = { driver with outgoing } := by
  unfold perform at running ⊢
  cases result : method driver.outgoing with
  | ok value outgoing => exact ⟨value, outgoing, rfl, rfl⟩
  | error error outgoing => simp [result] at running

end Driver

section

variable [CompressionPrimitives]

/-- What an ended task yields, unless it died, is what was submitted. -/
def OffloadTask.Ends (submitted task : OffloadTask) : Prop :=
  ∀ wires, task.outcome.2 = .ok wires → submitted.outcome.2 = .ok wires

namespace OutboundState

open OffloadTask

variable {outbound : OutboundState}

/-- A submission adds one task behind those which wait. -/
theorem exists_submit (encodes : outbound.encoder.isSome) (pooled : outbound.compressionPool.isSome)
    (message : Message) : ∃ task,
      (outbound.submit message).offloadPipeline = outbound.offloadPipeline ++ [task] ∧
      (outbound.submit message).encoder.isSome ∧
      (outbound.submit message).compressionPool.isSome := by
  obtain ⟨encoder, encoder_eq⟩ := Option.isSome_iff_exists.mp encodes
  obtain ⟨pool, pool_eq⟩ := Option.isSome_iff_exists.mp pooled
  simp only [submit, encoder_eq, pool_eq, submitToPipeline]
  split
  · exact ⟨_, rfl, rfl, rfl⟩
  · exact ⟨_, rfl, rfl, rfl⟩

theorem exists_submissions (encodes : outbound.encoder.isSome)
    (pooled : outbound.compressionPool.isSome) (messages : List Message) : ∃ tasks,
      (messages.foldl submit outbound).offloadPipeline = outbound.offloadPipeline ++ tasks := by
  induction messages generalizing outbound with
  | nil => exact ⟨[], (List.append_nil _).symm⟩
  | cons message rest induction =>
    obtain ⟨task, submitted, encodes, pooled⟩ := exists_submit encodes pooled message
    obtain ⟨tasks, tasks_eq⟩ := induction encodes pooled
    exact ⟨task :: tasks, by simpa [submitted] using tasks_eq⟩

/-- Compressions may end in any order. -/
theorem ends_finish {tasks : List OffloadTask} (endings : List (Nat × Bool))
    (ended : List.Forall₂ Ends tasks outbound.offloadPipeline) :
    List.Forall₂ Ends tasks (endings.foldl finish outbound).offloadPipeline := by
  induction endings generalizing outbound with
  | nil => exact ended
  | cons ending rest induction =>
    refine induction (forall₂_modify ended ending.1 fun {submitted task} ends => ?_)
    split
    · cases task with
      | running encoder message => exact fun wires aborted => by simp [abort, outcome] at aborted
      | finished encoder result => exact ends
    · exact ends

end OutboundState

variable [CurvePrimitives]

namespace Outgoing

/-- Messages are encoded one after the other. -/
inductive Inlined : Outgoing → List Message → Outgoing → Prop
  | nil {before : Outgoing} : Inlined before [] before
  | cons {before middle after : Outgoing} {message : Message} {rest : List Message}
      (encoded : encodeMsg message before = .ok () middle) (later : Inlined middle rest after) :
      Inlined before (message :: rest) after

/-- Messages are submitted one after the other, and the wire messages of each are framed behind
those of the one before.  The pipeline's own state is that in which the next one is submitted. -/
inductive Offloaded : OutboundState → Outgoing → List Message → Outgoing → Prop
  | nil {submitting : OutboundState} {before : Outgoing} : Offloaded submitting before [] before
  | cons {submitting : OutboundState} {before after : Outgoing} {message : Message}
      {wires rest : List Message} {task : OffloadTask}
      (submitted : (submitting.submit message).offloadPipeline =
        submitting.offloadPipeline ++ [task])
      (encoded : task.outcome.2 = .ok wires)
      (later : Offloaded (submitting.submit message) (wires.foldl frameWire before) rest after) :
      Offloaded submitting before (message :: rest) after

/-- The messages of a batch are framed in their order. -/
def InOrder (before : Outgoing) (messages : List Message) (after : Outgoing) : Prop :=
  if before.outbound.usePipeline then
    Offloaded before.outbound before messages { after with outbound := before.outbound }
  else Inlined before messages after

variable {messages : List Message}

theorem inlined_encodeMsgs {before after : Outgoing}
    (returned : encodeMsgs messages before = .ok () after) : Inlined before messages after := by
  induction messages generalizing before with
  | nil =>
    obtain rfl : before = after := by simpa [encodeMsgs] using returned
    exact .nil
  | cons message rest induction =>
    obtain ⟨_, middle, encoded, returned⟩ := bind_eq_ok.mp returned
    exact .cons encoded (induction returned)

omit [CurvePrimitives] [CompressionPrimitives] in
/-- Framing does not look at the compression state. -/
theorem frameWires_withOutbound (wires : List Message) (outgoing : Outgoing)
    (outbound : OutboundState) :
    wires.foldl frameWire { outgoing with outbound } =
      { wires.foldl frameWire outgoing with outbound } := by
  induction wires generalizing outgoing with
  | nil => rfl
  | cons wire rest induction =>
    rw [List.foldl_cons, List.foldl_cons, ← induction]
    congr 1
    unfold frameWire
    dsimp only
    cases outgoing.connection.wsRole <;> rfl

omit [CurvePrimitives] in
/-- Draining frames what was submitted, in the order of submission. -/
theorem offloaded_drainTasks {submitting outbound : OutboundState}
    {before after : Outgoing} {submitted tasks : List OffloadTask}
    (encodes : submitting.encoder.isSome) (pooled : submitting.compressionPool.isSome)
    (submitted_eq : (messages.foldl OutboundState.submit submitting).offloadPipeline =
      submitting.offloadPipeline ++ submitted)
    (ended : List.Forall₂ OffloadTask.Ends submitted tasks)
    (returned : drainTasks tasks { before with outbound } = .ok () after) :
    Offloaded submitting before messages { after with outbound := before.outbound } := by
  induction messages generalizing submitting outbound before submitted tasks with
  | nil =>
    obtain rfl : submitted = [] := by simpa using submitted_eq
    cases ended
    cases returned
    exact .nil
  | cons message rest induction =>
    obtain ⟨task, task_eq, encodes, pooled⟩ := OutboundState.exists_submit encodes pooled message
    obtain ⟨later, later_eq⟩ := OutboundState.exists_submissions encodes pooled rest
    obtain rfl : submitted = task :: later := by
      have split := submitted_eq.symm.trans later_eq
      simpa [task_eq] using split
    cases ended with
    | @cons _ last _ lasts ends ended =>
      obtain ⟨_, middle, drained, returned⟩ := bind_eq_ok.mp returned
      cases yielded : last.outcome.2 with
      | error error => simp [drainOffloadResult, yielded] at drained
      | ok wires =>
        simp only [drainOffloadResult, run_bind, run_get, run_set, run_modify, yielded,
          run_ofExcept_ok, frameWires_withOutbound] at drained
        cases drained
        have same_outbound : (wires.foldl frameWire before).outbound = before.outbound := by
          obtain ⟨_, _, framed⟩ := exists_frameWires wires before
          rw [framed]
        have rest_framed := induction encodes pooled later_eq ended returned
        rw [same_outbound] at rest_framed
        exact .cons task_eq (ends wires yielded) rest_framed

theorem inOrder_batchEncode {endings : List (Nat × Bool)} {before after : Outgoing}
    (drained : before.outbound.offloadPipeline = [])
    (returned : batchEncode messages endings before = .ok () after) :
    InOrder before messages after := by
  unfold InOrder
  split
  next pipelined =>
    rw [batchEncode_of_usePipeline pipelined] at returned
    simp only [OutboundState.usePipeline, Bool.and_eq_true] at pipelined
    have encodes : before.outbound.encoder.isSome := Option.isSome_of_any pipelined.1.2
    obtain ⟨tasks, tasks_eq⟩ := OutboundState.exists_submissions encodes pipelined.2 messages
    refine offloaded_drainTasks encodes pipelined.2 tasks_eq
      (OutboundState.ends_finish endings ?_) returned
    rw [tasks_eq, drained]
    exact List.forall₂_same.mpr fun _ _ _ yielded => yielded
  next inline =>
    rw [batchEncode_of_inline (by simpa using inline)] at returned
    exact inlined_encodeMsgs returned

end Outgoing

end

namespace Driver

section

variable [CompressionPrimitives] [CurvePrimitives] {driver after : Driver} {input : DriverInput}

/-! ## The order of a batch -/

/-- A turn writes its batch in order, then what the command behind it queues, and nothing else. -/
def Frames (driver : Driver) (batch : List Message) (deferred : Option PeerDriverCommand)
    (after : Driver) : Prop :=
  ∃ encoded queued, driver.outgoing.InOrder batch encoded ∧
    handleDeferred deferred encoded = .ok () queued ∧
    after.written = driver.written ++ queued.eq.content ++ queued.connection.pollTransmit

theorem frames_sendBatch {messages : List Message} {deferred : Option PeerDriverCommand}
    {outcomes : List Outcome} {endings : List (Nat × Bool)}
    (running : (driver.sendBatch messages deferred outcomes endings).running)
    (drained : driver.outgoing.outbound.offloadPipeline = []) :
    (driver.sendBatch messages deferred outcomes endings).inbox = driver.inbox ∧
      (driver.sendBatch messages deferred outcomes endings).sendPipe = driver.sendPipe ∧
      driver.Frames messages deferred (driver.sendBatch messages deferred outcomes endings) := by
  unfold sendBatch at running ⊢
  obtain ⟨flushed, finish_eq⟩ := running_andThen running
  rw [finish_eq] at running ⊢
  split at running
  · simp at running
  next goes_on =>
    rw [if_neg goes_on]
    obtain ⟨performed, flush_eq⟩ := running_andThen flushed
    obtain ⟨_, queued, returned, perform_eq⟩ := perform_eq_of_running performed
    obtain ⟨_, encoded, batch_returned, deferred_returned⟩ := bind_eq_ok.mp returned
    rw [flush_eq, perform_eq] at flushed
    rw [id, flush_eq, perform_eq]
    have sent := sent_flushAll flushed
    exact ⟨sent.inbox_eq, sent.sendPipe_eq, encoded, queued,
      inOrder_batchEncode drained batch_returned, deferred_returned, sent.written_eq⟩

/-- The messages which left the front of the queue in a turn, and the command behind them. -/
inductive Takes (driver : Driver) :
    DriverInput → List Message → Option PeerDriverCommand → Driver → Prop
  | inbox {outcomes endings batch deferred after}
      (inbox_eq : batch.map .sendMessage ++ Option.toList deferred ++ after.inbox = driver.inbox)
      (other : ∀ message, deferred ≠ some (.sendMessage message)) :
      Takes driver (.inboxReady outcomes endings) batch deferred after
  | pipe {outcomes endings batch pipe rest after} (present : driver.sendPipe = some pipe)
      (queue_eq : batch ++ rest = pipe.queue)
      (later : after.sendPipe = some { pipe with queue := rest }) :
      Takes driver (.pipeReady outcomes endings) batch none after

theorem takes_of_startsBatch {input : DriverInput}
    (clear : driver.outgoing.Clear) (starts : driver.startsBatch input)
    (stepped : driver.step input = some after) (running : after.running) :
    ∃ batch deferred, driver.Takes input batch deferred after ∧
      (batch ≠ [] → driver.Frames batch deferred after) := by
  have fired := (step_cases stepped).resolve_left fun acted => by
    cases input <;> simp [external, startsBatch] at acted starts
  cases fired with
  | @batch _ _ first rest _ inbox_eq =>
    obtain ⟨append, other⟩ := takeInbox_append driver.config.maxBatchBytes 1 first.byteLen rest
    obtain ⟨inbox_after, _, framed⟩ := frames_sendBatch running clear.2
    refine ⟨_, _, .inbox ?_ other, fun _ => framed⟩
    rw [inbox_after, inbox_eq]
    exact congrArg (PeerDriverCommand.sendMessage first :: ·) append
  | @pipeEmpty _ _ pipe _ present nothing =>
    have append := splitBatch_append driver.config.maxBatchBytes 0 0 pipe.queue
    rw [nothing] at append
    split at running
    · simp [close] at running
    next connected =>
      rw [if_neg connected]
      exact ⟨[], none, .pipe present append rfl, fun absent => absurd rfl absent⟩
  | @pipeBatch _ _ pipe _ present _ =>
    obtain ⟨goes_on, finish_eq⟩ := running_andThen running
    rw [finish_eq] at running ⊢
    split at running
    · simp at running
    next connected =>
      rw [if_neg connected]
      obtain ⟨_, pipe_after, framed⟩ := frames_sendBatch running clear.2
      exact ⟨_, none, .pipe present (splitBatch_append ..) pipe_after, fun _ => framed⟩
  | refuse _ _ => simp at running
  | ignore _ inbox_eq | encoded _ inbox_eq | activate _ inbox_eq | command _ inbox_eq
  | close _ inbox_eq => simp [startsBatch, inbox_eq] at starts
  | _ => simp [startsBatch] at starts

/-- Giving a flush up loses nothing of what waits. -/
theorem flush_append (clear : driver.outgoing.Clear)
    {outcomes : List Outcome} (stepped : driver.step (.flush outcomes) = some after) :
    after.written ++ after.connection.pollTransmit =
      driver.written ++ driver.connection.pollTransmit := by
  obtain acted | fired := step_cases stepped
  · simp [external] at acted
  · cases fired with
    | flush _ _ =>
      have nothing := (FrameBuffer.flushFrameBuffer_of_empty clear.1 outcomes).1
      have append := TransmitQueue.flushOnce_append driver.connection.out
      unfold flushArm
      dsimp only
      split
      · simp [halt, afterFrames, wrote, withFrameBuffer, nothing]
      · simp [afterFrames, wrote, withFrameBuffer, nothing]
      · split <;> simp [halt, afterQueue, afterFrames, wrote, withQueue, withFrameBuffer, nothing,
          Session.pollTransmit, append]

end

/-- A driver of a NULL connection of two PAIR sockets which offloads every compression. -/
def offloadingDriver : Driver :=
  .new ⟨65536, 0, 0, false⟩ (@Connection.new .transparent (.null .client .pair) .zero)
    (.new (some (.lz4 .new)) (some (.new 4)) 1) none none 256

/-- The turns of the handshake and the activation; then two messages and a ping wait. -/
def queueTwo : List DriverInput :=
  [.flush [.accepts 1000], .read (Connection.nullHandshake .pair) [], .flush [.accepts 1000],
    .enqueue .activateDataPlane, .inboxReady [] [],
    .enqueue (.sendMessage (.fromPayload (.fromBytes (ascii "hi")))),
    .enqueue (.sendMessage (.fromPayload (.fromBytes (ascii "ho")))),
    .enqueue (.sendCommand (.ping 0 []))]

/-- The turn which takes them; the second compression ends first. -/
def takeTwo : DriverInput := .inboxReady [.accepts 1000, .accepts 1000] [(1, false), (0, false)]

/-- What the turn writes: both messages in their order, and the ping. -/
def twoWritten : Bytes :=
  [0, 6, 0, 0, 0, 0, 104, 105, 0, 6, 0, 0, 0, 0, 104, 111, 4, 7, 4, 80, 73, 78, 71, 0, 0]

end Driver

end Omq
