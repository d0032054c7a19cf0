import Omq.Tokio.FanOut.Drained

/-!
# Lanes deliver exactly and in order

The messages a lane has begun, holds and will be given form one line, which ends with everything
dispatched since its oldest peer was added.  Each worker serves its peers exactly from that line.
-/

namespace Omq

open Function Transition LaneWorker List

namespace FanOutLanes

variable {Peer : Type*}

/-- What a lane other than the first has yet to be given. -/
def upcoming (pipe : FanOutLanes Peer) (index : Nat) : List LaneDispatch :=
  if index = 0 then [] else (pipe.copies.lookup index).getD [] ++ (pipe.lanes 0).data

/-- The messages of a lane: begun, held and to come. -/
def line (pipe : FanOutLanes Peer) (index : Nat) : List LaneDispatch :=
  (pipe.lanes index).log.map Prod.fst ++ (pipe.lanes index).batch ++ (pipe.lanes index).data ++
    pipe.upcoming index

variable [DecidableEq Peer]

/-- What holds in every state. -/
structure Sound (pipe : FanOutLanes Peer) : Prop extends Tabled pipe where
  serves : ∀ index, (pipe.lanes index).worker.Serves pipe.mode pipe.joined pipe.Live
    (pipe.lanes index).ctrl (pipe.lanes index).log
  copies : (0 :: pipe.copies.map Prod.fst).Nodup
  plain : ∀ dispatch ∈ pipe.dispatched, dispatch.msg.Plain
  ordered : ∀ index, (pipe.line index).Sublist pipe.dispatched
  since : ∀ entry ∈ pipe.registered, entry.since ≤ pipe.dispatched.length
  complete : ∀ entry ∈ pipe.registered, pipe.dispatched.drop entry.since <:+ pipe.line entry.lane

variable {pipe after : FanOutLanes Peer}

theorem lookup_map_pair {α : Type*} (keys : List Nat) (value : α) (index : Nat) :
    (keys.map (·, value)).lookup index = if index ∈ keys then some value else none := by
  induction keys with
  | nil => rfl
  | cons key rest induction =>
    rw [map_cons, lookup_cons, induction]
    by_cases same : index = key <;> simp [same, beq_false_of_ne]

/-- The same messages begun, held and in the ring. -/
def SameQueues (lane other : FanOutLane Peer) : Prop :=
  other.log = lane.log ∧ other.batch = lane.batch ∧ other.data = lane.data

variable {index : Nat} {peer : Peer}

omit [DecidableEq Peer] in
theorem line_congr (copies : after.copies.lookup index = pipe.copies.lookup index)
    (same : ∀ index, SameQueues (pipe.lanes index) (after.lanes index)) :
    after.line index = pipe.line index := by
  obtain ⟨log, batch, data⟩ := same index
  simp only [line, upcoming, log, batch, data, copies, (same 0).2.2]

/-- A lane loses messages of its line only while it has no peers. -/
def Follows (pipe after : FanOutLanes Peer) (added : List LaneDispatch) : Prop :=
  after.dispatched = pipe.dispatched ++ added ∧ ∀ index,
    (after.line index).Sublist (pipe.line index ++ added) ∧
      (after.line index = pipe.line index ++ added ∨ ∀ entry ∈ pipe.registered, entry.lane ≠ index)

omit [DecidableEq Peer] in
theorem Follows.of_line (dispatched : after.dispatched = pipe.dispatched)
    (same : ∀ index, after.line index = pipe.line index) : pipe.Follows after [] :=
  ⟨by simp [dispatched], fun index => by simp [same index]⟩

variable {changed : Nat} {lane : FanOutLane Peer} {added : List LaneDispatch}

omit [DecidableEq Peer] in
theorem Follows.of_update (lanes : after.lanes = update pipe.lanes changed lane)
    (copies : after.copies = pipe.copies) (dispatched : after.dispatched = pipe.dispatched)
    (same : SameQueues (pipe.lanes changed) lane) : pipe.Follows after [] := by
  refine .of_line dispatched fun index => line_congr (by rw [copies]) fun other => ?_
  rw [lanes]
  exact forall_update (fun other lane => SameQueues (pipe.lanes other) lane)
    (fun _ => ⟨rfl, rfl, rfl⟩) same other

/-- The first worker copies its batch. -/
theorem Sound.follows_copyNext (sound : pipe.Sound) (copied : pipe.copyNext = some after) :
    pipe.Follows after [] := by
  have looked (target : Nat) (rest : List (Nat × List LaneDispatch)) (index : Nat)
      (entries : List LaneDispatch) : (((target, entries) :: rest).lookup index).getD [] =
        if index = target then entries else (rest.lookup index).getD [] := by
    rw [lookup_cons]
    by_cases same : index = target <;> simp [same, beq_false_of_ne]
  have alone {target : Nat} {left : List LaneDispatch} {rest : List (Nat × List LaneDispatch)}
      (copies_eq : pipe.copies = (target, left) :: rest) :
      target ≠ 0 ∧ rest.lookup target = none := by
    have unique := sound.copies
    simp only [copies_eq, map_cons, nodup_cons, mem_cons, not_or] at unique
    obtain ⟨⟨not_first, _⟩, once, _⟩ := unique
    refine ⟨Ne.symm not_first, lookup_eq_none_iff.mpr fun entry member => ?_⟩
    simpa using fun same : target = entry.1 => once (same ▸ mem_map_of_mem member)
  revert copied
  fun_cases copyNext pipe <;> rintro ⟨⟩
  · exact .of_line rfl fun index => rfl
  next target left rest copies_eq _ unserved => -- the lane has no peers
    obtain ⟨not_first, gone⟩ := alone copies_eq
    refine ⟨by simp, fun index => ?_⟩
    by_cases same : index = target
    · subst same
      refine ⟨?_, .inr fun entry member lane_eq => ?_⟩
      · simp only [line, upcoming, copies_eq, looked, gone]
        simp [not_first]
      · have nobody := sound.counted index
        rw [not_not.mp unserved, eq_comm, countP_eq_zero] at nobody
        exact nobody entry member (by simpa using lane_eq)
    · have kept : ({ pipe with copies := rest } : FanOutLanes Peer).line index =
          pipe.line index := by
        simp only [line, upcoming, copies_eq, looked, if_neg same]
      simp [kept]
  next target rest _ copies_eq => -- all is copied
    obtain ⟨_, gone⟩ := alone copies_eq
    refine .of_line rfl fun index => ?_
    by_cases same : index = target
    · simp [line, upcoming, copies_eq, same, gone]
    · simp only [line, upcoming, copies_eq, looked, if_neg same]
  next target rest _ dispatch left _ copies_eq =>
    obtain ⟨not_first, _⟩ := alone copies_eq
    refine .of_line rfl fun index => ?_
    by_cases same : index = target
    · subst same
      simp [line, upcoming, copies_eq, modifyLane, not_first, not_first.symm]
    · simp [line, upcoming, copies_eq, looked, same, modifyLane, not_first.symm]
  next lossy _ =>
    rw [(sound.serves 0).plain.2.1] at lossy
    cases lossy

/-- What the socket registered is neither lost nor out of order after a step. -/
theorem Sound.lines (sound : pipe.Sound) (follows : pipe.Follows after added) :
    (∀ index, (after.line index).Sublist after.dispatched) ∧
      ∀ entry ∈ pipe.registered, entry.since ≤ after.dispatched.length ∧
        after.dispatched.drop entry.since <:+ after.line entry.lane := by
  obtain ⟨dispatched_eq, lines⟩ := follows
  rw [dispatched_eq]
  refine ⟨fun index => (lines index).1.trans ((sound.ordered index).append_right added), ?_⟩
  intro entry member
  have earlier := sound.since entry member
  obtain ⟨before, line_eq⟩ := sound.complete entry member
  refine ⟨by rw [length_append]; omega, before, ?_⟩
  have kept := (lines entry.lane).2.resolve_right fun nobody => nobody entry member rfl
  rw [kept, drop_append_of_le_length earlier, ← append_assoc, line_eq]

theorem Sound.keep (sound : pipe.Sound) (tabled : after.Tabled) (follows : pipe.Follows after added)
    (plain : ∀ dispatch ∈ added, dispatch.msg.Plain)
    (same : (after.mode, after.registered, after.joined) =
      (pipe.mode, pipe.registered, pipe.joined))
    (copies : (0 :: after.copies.map Prod.fst).Nodup)
    (serves : ∀ index, (after.lanes index).worker.Serves pipe.mode pipe.joined pipe.Live
      (after.lanes index).ctrl (after.lanes index).log) :
    after.Sound := by
  obtain ⟨ordered, complete⟩ := sound.lines follows
  obtain ⟨dispatched_eq, _⟩ := follows
  obtain ⟨mode, laneCount, pipeCap, lanes, registered, joined⟩ := after
  simp only [Prod.mk.injEq] at same
  obtain ⟨rfl, rfl, rfl⟩ := same
  refine ⟨tabled, serves, copies, ?_, ordered,
    fun entry member => (complete entry member).1, fun entry member => (complete entry member).2⟩
  intro dispatch member
  rw [dispatched_eq] at member
  exact (mem_append.mp member).elim (sound.plain dispatch) (plain dispatch)

theorem Sound.keepUpdate (sound : pipe.Sound) (tabled : after.Tabled)
    (follows : pipe.Follows after added) (plain : ∀ dispatch ∈ added, dispatch.msg.Plain)
    (same : (after.mode, after.registered, after.joined) =
      (pipe.mode, pipe.registered, pipe.joined))
    (copies : (0 :: after.copies.map Prod.fst).Nodup)
    (lanes : after.lanes = update pipe.lanes changed lane)
    (serves : lane.worker.Serves pipe.mode pipe.joined pipe.Live lane.ctrl lane.log) :
    after.Sound := by
  refine sound.keep tabled follows plain same copies ?_
  rw [lanes]
  exact forall_update (fun _ lane =>
    lane.worker.Serves pipe.mode pipe.joined pipe.Live lane.ctrl lane.log) sound.serves serves

theorem Sound.start (mode : FanOutMode) (laneCount pipeCap : Nat)
    (setups : Peer → LaneWorker.SlotSetup) :
    (start mode .block laneCount pipeCap setups).Sound where
  serves _ :=
    { plain := ⟨rfl, rfl, rfl, rfl⟩
      unique := nodup_nil
      counted := rfl
      active := fun _ _ => rfl
      known := fun _ _ => ⟨not_mem_nil, not_mem_nil, rfl, rfl, rfl⟩
      kept := fun _ _ => not_mem_nil
      job := fun _ member => nomatch member
      framed := fun _ => rfl
      delivered := fun _ _ _ => rfl }
  toTabled := .start mode .block laneCount pipeCap setups
  copies := nodup_singleton 0
  plain _ member := nomatch member
  ordered index := by simp [line, upcoming, FanOutLanes.start, FanOutLane.new]
  since _ member := nomatch member
  complete _ member := nomatch member

theorem Sound.add (sound : pipe.Sound) (new : peer ∉ pipe.joined) {chosen : Nat}
    (range : chosen = 0 ∨ chosen < pipe.laneCount) (anyGroups : Bool) :
    ({ pipe.modifyLane chosen (·.tell peer (.add anyGroups)) with
      registered := pipe.registered ++ [⟨peer, chosen, pipe.dispatched.length⟩]
      joined := peer :: pipe.joined } : FanOutLanes Peer).Sound := by
  obtain ⟨ordered, complete⟩ := sound.lines (Follows.of_update rfl rfl rfl
    ⟨rfl, rfl, rfl⟩ : pipe.Follows { pipe.modifyLane chosen (·.tell peer (.add anyGroups)) with
      registered := pipe.registered ++ [⟨peer, chosen, pipe.dispatched.length⟩]
      joined := peer :: pipe.joined } [])
  have joining (index : Nat) := ((sound.serves index).join new).mono fun other
    (lives : ∃ entry ∈ pipe.registered ++ [⟨peer, chosen, pipe.dispatched.length⟩],
      entry.peer = other) => by
    obtain ⟨entry, member, rfl⟩ := lives
    rcases mem_append.mp member with old | added
    · exact .inr ⟨entry, old, rfl⟩
    · exact .inl (by rw [mem_singleton.mp added])
  refine ⟨sound.toTabled.add new range anyGroups _, forall_update (fun _ lane =>
    lane.worker.Serves pipe.mode (peer :: pipe.joined) _ lane.ctrl lane.log) joining
      ((joining chosen).tell mem_cons_self ?_ ?_), sound.copies, sound.plain, ordered, ?_, ?_⟩
  · intro _ _ told
    obtain ⟨not_served, not_told, _⟩ := (sound.serves chosen).known peer new
    rcases mem_append.mp told with served | told
    · exact not_served served
    · exact not_told (mem_of_mem_adds told)
  · rintro ⟨⟩
  · simp only [forall_mem_append, forall_mem_singleton]
    exact ⟨fun entry member => (complete entry member).1, Nat.le_refl _⟩
  · simp only [forall_mem_append, forall_mem_singleton]
    exact ⟨fun entry member => (complete entry member).2, by simp [modifyLane]⟩

theorem Sound.notify (sound : pipe.Sound) {entry : Registration Peer}
    (member : entry ∈ pipe.registered) {notice : PeerNotice} (not_add : notice.isAdd = false) :
    ({ pipe.modifyLane entry.lane (·.tell entry.peer notice) with
      registered := if notice.isRemove then pipe.registered.filter (·.peer ≠ entry.peer)
        else pipe.registered } : FanOutLanes Peer).Sound := by
  have tabled := sound.toTabled.notify member not_add
  generalize registered_eq : (if notice.isRemove then
    pipe.registered.filter (·.peer ≠ entry.peer) else pipe.registered) = registered at tabled ⊢
  have fewer : registered ⊆ pipe.registered := by
    rw [← registered_eq]
    split_ifs
    · exact filter_sublist.subset
    · exact List.Subset.refl _
  obtain ⟨ordered, complete⟩ := sound.lines (Follows.of_update rfl rfl rfl
    ⟨rfl, rfl, rfl⟩ : pipe.Follows { pipe.modifyLane entry.lane (·.tell entry.peer notice) with
      registered } [])
  have told (index : Nat) := (sound.serves index).mono
    fun other (alive : ∃ entry ∈ registered, entry.peer = other) =>
      alive.imp fun _ listed => ⟨fewer listed.1, listed.2⟩
  refine ⟨tabled, forall_update (fun _ lane => lane.worker.Serves pipe.mode pipe.joined _
    lane.ctrl lane.log) told ((told entry.lane).tell
      (sound.joined _ ⟨entry, member, rfl⟩) ?_ ?_), sound.copies, sound.plain, ordered,
    fun _ listed => (complete _ (fewer listed)).1, fun _ listed => (complete _ (fewer listed)).2⟩
  · rintro anyGroups rfl
    cases not_add
  · rintro rfl ⟨other, listed, same⟩
    simp only [PeerNotice.isRemove, if_true] at registered_eq
    rw [← registered_eq, mem_filter] at listed
    simp [same] at listed

theorem Sound.gather (sound : pipe.Sound) (tabled : after.Tabled) {count : Nat}
    (no_batch : (pipe.lanes index).batch = []) (no_copies : index = 0 → pipe.copies = [])
    (gathered : after = { pipe.modifyLane index fun lane =>
        { lane with batch := (pipe.lanes index).data.take count, data := lane.data.drop count } with
      copies := if index = 0 then
        (List.range' 1 (pipe.laneCount - 1)).map (·, (pipe.lanes index).data.take count)
        else pipe.copies
      copying := if index = 0 then false else pipe.copying }) : after.Sound := by
  subst gathered
  by_cases first : index = 0
  · subst first
    refine sound.keepUpdate tabled ⟨(append_nil _).symm, fun other => ?_⟩ (by simp) rfl ?_ rfl
      (sound.serves 0)
    · by_cases same : other = 0
      · subst same
        simp [line, upcoming, modifyLane, no_batch]
      · simp only [line, upcoming, modifyLane, lookup_map_pair, no_copies rfl, same,
          update_of_ne same, update_self, if_true, if_false, append_nil]
        by_cases inside : other ∈ List.range' 1 (pipe.laneCount - 1)
        · simp [inside]
        · refine ⟨by simpa [inside] using drop_sublist _ _, .inr fun entry member lane_eq => ?_⟩
          have range := sound.inRange entry member
          simp only [mem_range'_1, not_and] at inside
          omega
    · simp [map_map, comp_def, nodup_range']
  · refine sound.keepUpdate tabled (.of_line rfl fun other => ?_) (by simp) rfl ?_ rfl
      (sound.serves index)
    · by_cases same : other = index
      · subst same
        simp [line, upcoming, modifyLane, no_batch, first, Ne.symm first]
      · simp [line, upcoming, modifyLane, same, first, Ne.symm first]
    · simpa [first] using sound.copies

/-- The lane of a peer takes the messages in the order of their dispatch and leaves out none which
was dispatched since the peer was added.  The peer is queued, or about to be queued, exactly the
messages which the lane found to be for it when it began them, each once and in order, as their
encodings. -/
def DeliversTo (pipe : FanOutLanes Peer) (entry : Registration Peer) : Prop :=
  (∃ earlier : List LaneDispatch, earlier.Sublist (pipe.dispatched.take entry.since) ∧
    pipe.line entry.lane = earlier ++ pipe.dispatched.drop entry.since) ∧
  ((pipe.lanes entry.lane).worker.queued entry.peer).flatMap (·.messages) ++
      pending (pipe.lanes entry.lane).worker.job entry.peer =
    selected pipe.mode (pipe.lanes entry.lane).log entry.peer ∧
  ((pipe.lanes entry.lane).worker.queued entry.peer).flatMap (·.frame.bytes) =
    (((pipe.lanes entry.lane).worker.queued entry.peer).flatMap (·.messages)).flatMap
      encodeMessageFlat

theorem Sound.deliversTo (sound : pipe.Sound) {entry : Registration Peer}
    (member : entry ∈ pipe.registered)
    (alive : ((pipe.lanes entry.lane).worker.slots entry.peer).dead = false) :
    pipe.DeliversTo entry := by
  refine ⟨?_, (sound.serves entry.lane).delivered entry.peer ⟨entry, member, rfl⟩ alive,
    (sound.serves entry.lane).framed entry.peer⟩
  obtain ⟨earlier, line_eq⟩ := sound.complete entry member
  refine ⟨earlier, ?_, line_eq.symm⟩
  have ordered := sound.ordered entry.lane
  rw [← line_eq] at ordered
  nth_rewrite 2 [← take_append_drop entry.since pipe.dispatched] at ordered
  exact (append_sublist_append_right _).mp ordered

variable [CompressionPrimitives]

theorem Sound.workerStep (sound : pipe.Sound) (tabled : after.Tabled)
    {action : LaneWorker.Action Peer} {ctrl : List (Peer × PeerNotice)}
    (stepped : pipe.workerStep index action ctrl = some after)
    (serves : ∀ {worker}, (pipe.lanes index).worker.step action = some worker →
      worker.Serves pipe.mode pipe.joined pipe.Live ctrl (pipe.lanes index).log) : after.Sound := by
  obtain ⟨worker, worker_eq, rfl⟩ := Option.map_eq_some_iff.mp stepped
  exact sound.keepUpdate tabled (.of_update rfl rfl rfl ⟨rfl, rfl, rfl⟩) (by simp) rfl sound.copies
    rfl (serves worker_eq)

theorem Sound.begin (sound : pipe.Sound) {dispatch : LaneDispatch} {batch : List LaneDispatch}
    (tabled : after.Tabled) (batch_eq : (pipe.lanes index).batch = dispatch :: batch)
    (ready : (pipe.lanes index).worker.job.isNone)
    (begun : after = pipe.modifyLane index fun lane =>
      { lane with
        worker := lane.worker.beginDispatch dispatch
        batch
        log := lane.log ++ [(dispatch, lane.worker.peers)] }) : after.Sound := by
  subst begun
  have plain : dispatch.msg.Plain := by
    refine sound.plain dispatch ((sound.ordered index).subset ?_)
    simp [line, batch_eq]
  refine sound.keepUpdate tabled (.of_line rfl fun other => ?_) (by simp) rfl sound.copies rfl
    ((sound.serves index).begin (Option.isNone_iff_eq_none.mp ready) plain)
  simp only [line, upcoming, modifyLane]
  have kept (lane : FanOutLane Peer) (data_eq : lane.data = (pipe.lanes index).data) :
      (update pipe.lanes index lane 0).data = (pipe.lanes 0).data :=
    forall_update (fun index lane => lane.data = (pipe.lanes index).data) (fun _ => rfl) data_eq 0
  rw [kept]
  · by_cases same : other = index
    · subst same
      simp [batch_eq]
    · simp [same]
  · rfl

/-- What keeps lanes exact: no message is cut into pieces or taken for a dictionary. -/
def DispatchesPlain (_ : FanOutLanes Peer) : Action Peer → Prop
  | .dispatch message => message.Plain
  | _ => True

theorem Sound.step {action : Action Peer} (sound : pipe.Sound) (plain : pipe.DispatchesPlain action)
    (stepped : pipe.step action = some after) : after.Sound := by
  have tabled := sound.toTabled.step stepped
  revert stepped
  fun_cases pipe.step action <;> intro stepped
  case case10 index _ _ _ ctrl_eq => -- control
    refine sound.workerStep tabled stepped fun worker_eq => ?_
    have serves := sound.serves index
    rw [ctrl_eq] at serves
    rw [← step_control worker_eq]
    exact serves.control
  case case13 => -- copy
    obtain ⟨same, copies, lanes⟩ := copyNext_frame stepped
    simp only [Prod.mk.injEq] at same
    refine sound.keep tabled (sound.follows_copyNext stepped) (by simp) (by simp [same])
      (sound.copies.sublist (copies.cons_cons 0)) fun index => ?_
    obtain ⟨data, lane_eq⟩ := lanes index
    rw [lane_eq]
    exact sound.serves index
  case case17 => -- work
    refine sound.workerStep tabled stepped fun worker_eq => ?_
    obtain ⟨job, job_eq, rfl⟩ := step_work worker_eq
    exact (sound.serves _).continueJob job_eq
  case case18 index peer change => -- slot
    refine sound.workerStep tabled stepped fun worker_eq => ?_
    cases worker_eq
    have serves := sound.serves index
    exact serves.reslot fun alive => change.active_apply alive (serves.active peer)
  case case19 => -- reorder
    refine sound.workerStep tabled stepped fun worker_eq => ?_
    obtain ⟨same, rfl⟩ := step_reorder worker_eq
    exact (sound.serves _).reorder same.1
  all_goals cases stepped
  next chosen new => exact sound.add new.1 (by omega) _
  next entry found not_add =>
    obtain rfl : entry.peer = _ := by simpa using List.find?_some found
    exact sound.notify (mem_of_find?_eq_some found) (by simpa using not_add.1)
  next message dispatch prepared _ =>
    refine sound.keepUpdate tabled ⟨rfl, fun index => ?_⟩ ?_ rfl sound.copies rfl (sound.serves 0)
    · have appended : ({ pipe.modifyLane 0 fun lane =>
          { lane with data := lane.data ++ [dispatch] } with
            dispatched := pipe.dispatched ++ [dispatch] } : FanOutLanes Peer).line index =
          pipe.line index ++ [dispatch] := by
        by_cases same : index = 0 <;> simp [line, upcoming, modifyLane, same]
      simp [appended]
    · have plain : message.Plain := plain
      rw [← LaneDispatch.msg_of_prepare prepared] at plain
      simpa using plain
  next ready _ => exact sound.gather tabled ready.1 ready.2.2 rfl
  next batch_eq ready => exact sound.begin tabled batch_eq ready.1 rfl

/-- Lanes deliver exactly to every live peer whose slot works, and the shortcut for peers subscribed
to everything counts them right. -/
theorem delivers_exactly {mode : FanOutMode} {laneCount pipeCap : Nat}
    {setups : Peer → LaneWorker.SlotSetup} {final : FanOutLanes Peer}
    (runs : Runs FanOutLanes.step DispatchesPlain (.start mode .block laneCount pipeCap setups)
      final) :
    (∀ index, (final.lanes index).worker.subscribeAllCount =
      subscribedToAll (final.lanes index).worker.peers) ∧
    ∀ entry ∈ final.registered,
      ((final.lanes entry.lane).worker.slots entry.peer).dead = false → final.DeliversTo entry := by
  have sound : final.Sound := runs.invariant (fun plain stepped sound => sound.step plain stepped)
    (.start mode laneCount pipeCap setups)
  exact ⟨fun index => (sound.serves index).counted, fun _ => sound.deliversTo⟩

/-! ## Runs -/

/-- A PUB socket with two lanes. -/
def publisher : FanOutLanes Bool :=
  start .subscriptionPrefix .block 2 8 fun _ => ⟨false, none, none, 4096, 65536, 100, none⟩

def joinAll (peer : Bool) (lane : Nat) : List (Action Bool) :=
  [.add peer lane false, .notify peer (.subscribe []), .control lane, .control lane]

/-- A message goes through both lanes. -/
def publish (data : Bytes) : List (Action Bool) :=
  [.dispatch (messageOf data), .gather 0 8, .copy, .copy, .copy, .begin 0, .work 0,
    .work 0, .gather 1 8, .begin 1, .work 1, .work 1]

instance (message : Message) : Decidable message.Plain :=
  inferInstanceAs (Decidable (_ ∧ _))

instance {Peer : Type*} (pipe : FanOutLanes Peer) :
    (action : Action Peer) → Decidable (pipe.DispatchesPlain action)
  | .dispatch message => inferInstanceAs (Decidable message.Plain)
  | .add .. | .notify .. | .control _ | .gather .. | .copy | .begin _ | .work _ | .slot ..
  | .reorder .. => .isTrue trivial

omit [CompressionPrimitives] in
theorem delivers_exactly_two_lanes : ∃ final,
    Runs (@step Bool _ .storing) DispatchesPlain publisher final ∧
      final.registered.map (·.lane) = [0, 1] ∧
      ((final.lanes 1).worker.queued true).flatMap (·.messages) = [messageOf [1], messageOf [2]] ∧
      (final.lanes 1).worker.subscribeAllCount = subscribedToAll (final.lanes 1).worker.peers := by
  have runs : Runs (@step Bool _ .storing) DispatchesPlain publisher _ :=
    .computed (joinAll false 0 ++ joinAll true 1 ++ publish [1] ++ publish [2]) (by decide +kernel)
  exact ⟨_, runs, by decide +kernel, by decide +kernel,
    (@delivers_exactly Bool _ .storing _ _ _ _ _ runs).1 1⟩

/-- The payload of a message which looks like a dictionary. -/
def dictLike : Bytes := [0x4c, 0x5a, 0x34, 0x44]

/-- A message goes through the first lane, the only one with peers. -/
def publishFirst (data : Bytes) : List (Action Bool) :=
  [.dispatch (messageOf data), .gather 0 8, .copy, .begin 0, .work 0, .work 0, .work 0, .work 0]

omit [CompressionPrimitives] in
/-- Such a message is taken for a dictionary even without compression: of two, the peer is queued
the first only, and the lane has begun both. -/
theorem second_dict_like_lost : ∃ final,
    Reaches (@step Bool _ .storing) publisher final ∧
      (final.lanes 0).worker.peers.map Prod.fst = [false] ∧
      ((final.lanes 0).worker.slots false).dead = false ∧
      (final.lanes 0).worker.job.isNone ∧
      selected final.mode (final.lanes 0).log false = [messageOf dictLike, messageOf dictLike] ∧
      ((final.lanes 0).worker.queued false).flatMap (·.messages) = [messageOf dictLike] := by
  exact exists_reaches (joinAll false 0 ++ publishFirst dictLike ++
    publishFirst dictLike) (by decide +kernel)

end FanOutLanes

end Omq
