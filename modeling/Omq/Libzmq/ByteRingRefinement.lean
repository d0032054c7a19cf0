import Omq.Libzmq.ByteRing

/-!
# The byte ring holds a queue of payloads

Counting without wrapping, the entries which were not read lie one after the other from the read
position to the write position, all inside the buffer and within one capacity.  What is written
behind them leaves them alone, so the reader finds the payloads in order.  A sender is careful when
it does not begin an empty entry with the last header of the buffer; a reader of what a careful
sender wrote never indexes behind the end.
-/

namespace Omq.Libzmq

open CircularMemory WrappingCursor List

/-- A payload in the ring, and whether it was moved to the start of the buffer. -/
structure Entry where
  wrapped : Bool
  data : Bytes

variable {layout : RingLayout} {careful : Prop}

theorem headerSize_le_alignedEntrySize (payloadLen : Nat) :
    headerSize + payloadLen ≤ alignedEntrySize payloadLen := by
  unfold alignedEntrySize headerSize
  omega

theorem four_dvd_alignedEntrySize (payloadLen : Nat) : 4 ∣ alignedEntrySize payloadLen :=
  Nat.dvd_mul_left _ _

namespace RingLayout

theorem four_dvd_capacity (layout : RingLayout) : 4 ∣ layout.capacity :=
  Nat.pow_dvd_pow 2 layout.aligned

theorem capacity_pos (layout : RingLayout) : 0 < layout.capacity := Nat.two_pow_pos _

theorem capacity_lt (layout : RingLayout) : layout.capacity < 2 ^ 64 :=
  Nat.pow_lt_pow_right (by omega) layout.fits

theorem offset_cursorAt (layout : RingLayout) (position : Nat) :
    layout.offset (cursorAt 0 position) = position % layout.capacity := by
  rw [offset, capacity, toNat_cursorAt_mod _ layout.fits.le]
  simp

theorem offset_add_four_le (layout : RingLayout) {position : Nat} (aligned : 4 ∣ position) :
    position % layout.capacity + 4 ≤ layout.capacity := by
  have below := Nat.mod_lt position layout.capacity_pos
  obtain ⟨first, first_eq⟩ := (Nat.dvd_mod_iff layout.four_dvd_capacity).mpr aligned
  obtain ⟨second, second_eq⟩ := layout.four_dvd_capacity
  omega

/-- The next position at the start of the buffer. -/
def nextStart (layout : RingLayout) (position : Nat) : Nat :=
  position + (layout.capacity - position % layout.capacity)

theorem nextStart_mod (layout : RingLayout) (position : Nat) :
    layout.nextStart position % layout.capacity = 0 := by
  have below := Nat.mod_lt position layout.capacity_pos
  have split := Nat.div_add_mod position layout.capacity
  have turn : layout.nextStart position = layout.capacity * (position / layout.capacity + 1) := by
    rw [nextStart, Nat.mul_add]
    omega
  rw [turn, Nat.mul_mod_right]

theorem four_dvd_nextStart (layout : RingLayout) (position : Nat) : 4 ∣ layout.nextStart position :=
  layout.four_dvd_capacity.trans (Nat.dvd_of_mod_eq_zero (layout.nextStart_mod position))

end RingLayout

namespace Entry

/-- Where the header is, if the writer stands at a position. -/
def start (layout : RingLayout) (position : Nat) (entry : Entry) : Nat :=
  if entry.wrapped then layout.nextStart position else position

/-- Where the entry ends. -/
def finish (layout : RingLayout) (position : Nat) (entry : Entry) : Nat :=
  entry.start layout position + alignedEntrySize entry.data.length

theorem le_start (layout : RingLayout) (position : Nat) (entry : Entry) :
    position ≤ entry.start layout position := by
  unfold start RingLayout.nextStart
  split_ifs <;> omega

theorem start_add_le_finish (layout : RingLayout) (position : Nat) (entry : Entry) :
    entry.start layout position + headerSize + entry.data.length ≤
      entry.finish layout position := by
  have fits := headerSize_le_alignedEntrySize entry.data.length
  unfold finish
  omega

theorem four_dvd_finish (layout : RingLayout) {position : Nat} (aligned : 4 ∣ position)
    (entry : Entry) : 4 ∣ entry.finish layout position := by
  refine Nat.dvd_add ?_ (four_dvd_alignedEntrySize _)
  unfold start
  split_ifs
  · exact layout.four_dvd_nextStart position
  · exact aligned

end Entry

/-- Where entries end which follow each other. -/
def finishOf (layout : RingLayout) (position : Nat) (entries : List Entry) : Nat :=
  entries.foldl (Entry.finish layout) position

theorem finishOf_append (position : Nat) (front back : List Entry) :
    finishOf layout position (front ++ back) =
      finishOf layout (finishOf layout position front) back :=
  foldl_append

theorem le_finishOf (layout : RingLayout) (position : Nat) (entries : List Entry) :
    position ≤ finishOf layout position entries := by
  induction entries generalizing position with
  | nil => exact Nat.le_refl _
  | cons entry rest induction =>
    have started := entry.le_start layout position
    have finished := entry.start_add_le_finish layout position
    exact Nat.le_trans (by omega) (induction (entry.finish layout position))

variable {position target : Nat} {buf : Nat → UInt8} {values : List UInt8}

theorem four_dvd_finishOf (aligned : 4 ∣ position) (entries : List Entry) :
    4 ∣ finishOf layout position entries := by
  induction entries generalizing position with
  | nil => exact aligned
  | cons entry rest induction => exact induction (entry.four_dvd_finish layout aligned)

/-- An entry lies in memory where it should, inside the buffer. -/
structure Entry.Lies (layout : RingLayout) (careful : Prop) (buf : Nat → UInt8) (position : Nat)
    (entry : Entry) : Prop where
  marked : entry.wrapped = true →
    BigEndian.decode (read buf (position % layout.capacity) headerSize) = wrapSentinel
  header : BigEndian.decode (read buf (entry.start layout position % layout.capacity) headerSize) =
    entry.data.length
  payload : read buf (entry.start layout position % layout.capacity + headerSize)
    entry.data.length = entry.data
  short : entry.data.length < wrapSentinel
  inside : entry.start layout position % layout.capacity +
    alignedEntrySize entry.data.length ≤ layout.capacity
  indexed : careful → entry.start layout position % layout.capacity + headerSize < layout.capacity

/-- Entries lie in memory one after the other. -/
def Stored (layout : RingLayout) (careful : Prop) (buf : Nat → UInt8) : Nat → List Entry → Prop
  | _, [] => True
  | position, entry :: rest =>
    entry.Lies layout careful buf position ∧
      Stored layout careful buf (entry.finish layout position) rest

theorem Entry.Lies.payload_eq {ring : ByteRing} {entry : Entry}
    (lies : entry.Lies layout careful ring.ring.buf position) :
    ring.header layout (cursorAt 0 (entry.start layout position)) = entry.data.length ∧
      ring.payload layout (cursorAt 0 (entry.start layout position)) = entry.data := by
  have header_eq : ring.header layout (cursorAt 0 (entry.start layout position)) =
      entry.data.length := by
    rw [ByteRing.header, layout.offset_cursorAt, lies.header]
  refine ⟨header_eq, ?_⟩
  rw [ByteRing.payload, header_eq, layout.offset_cursorAt, lies.payload]

theorem stored_append {front back : List Entry} :
    Stored layout careful buf position (front ++ back) ↔
      Stored layout careful buf position front ∧
        Stored layout careful buf (finishOf layout position front) back := by
  induction front generalizing position with
  | nil => simp [Stored, finishOf]
  | cons entry rest induction =>
    simp only [cons_append, Stored, induction, finishOf, foldl_cons, and_assoc]

/-- A write behind an entry, within one capacity, leaves the entry alone. -/
theorem Entry.Lies.write {entry : Entry} (lies : entry.Lies layout careful buf position)
    (behind : entry.finish layout position ≤ target)
    (near : target + values.length ≤ position + layout.capacity) (positive : 0 < values.length) :
    entry.Lies layout careful (write buf (target % layout.capacity) values) position := by
  have started := entry.le_start layout position
  have finished := entry.start_add_le_finish layout position
  have mark_apart := apart_of_window position headerSize target values.length (by omega) near
    positive
  have entry_near : target + values.length ≤ entry.start layout position + layout.capacity := by
    omega
  have entry_apart := apart_of_window (entry.start layout position)
    (headerSize + entry.data.length) target values.length (by omega) entry_near positive
  refine ⟨fun wrapped => ?_, ?_, ?_, lies.short, lies.inside, lies.indexed⟩
  · rw [read_write_of_apart buf mark_apart]
    exact lies.marked wrapped
  · rw [read_write_of_apart buf (by omega)]
    exact lies.header
  · rw [read_write_of_apart buf (by omega)]
    exact lies.payload

theorem Stored.write {entries : List Entry} (stored : Stored layout careful buf position entries)
    (behind : finishOf layout position entries ≤ target)
    (near : target + values.length ≤ position + layout.capacity) (positive : 0 < values.length) :
    Stored layout careful (CircularMemory.write buf (target % layout.capacity) values) position
      entries := by
  induction entries generalizing position with
  | nil => trivial
  | cons entry rest induction =>
    obtain ⟨lies, later⟩ := stored
    have further := le_finishOf layout (entry.finish layout position) rest
    have started := entry.le_start layout position
    have finished := entry.start_add_le_finish layout position
    refine ⟨lies.write (further.trans behind) near positive, induction later behind (by omega)⟩

/-! ## The ring -/

/-- Positions of the receiver and of what the sender knows of it. -/
structure RingMarks where
  read : Nat
  /-- The published read position. -/
  released : Nat
  /-- The read position the sender knows. -/
  cachedHead : Nat

/-- What a ring represents: the entries which were not read, as far as the receiver knows of them,
as far as they are published besides, and those which are written besides. -/
structure Represents (layout : RingLayout) (careful : Prop) (ring : ByteRing) (marks : RingMarks)
    (seen unseen unpublished : List Entry) : Prop where
  head : ring.consumer.head = cursorAt 0 marks.read
  ringHead : ring.ring.head = cursorAt 0 marks.released
  cachedHead : ring.producer.cachedHead = cursorAt 0 marks.cachedHead
  cachedTail : ring.consumer.cachedTail = cursorAt 0 (finishOf layout marks.read seen)
  ringTail : ring.ring.tail = cursorAt 0 (finishOf layout marks.read (seen ++ unseen))
  tail : ring.producer.tail =
    cursorAt 0 (finishOf layout marks.read (seen ++ unseen ++ unpublished))
  aligned : 4 ∣ marks.read
  cachedHead_le : marks.cachedHead ≤ marks.released
  released_le : marks.released ≤ marks.read
  bounded : finishOf layout marks.read (seen ++ unseen ++ unpublished) + headerSize ≤
    marks.cachedHead + layout.capacity
  stored : Stored layout careful ring.ring.buf marks.read (seen ++ unseen ++ unpublished)
  history : ring.accepted = ring.received ++ (seen ++ unseen ++ unpublished).map Entry.data

namespace Represents

theorem new (layout : RingLayout) (careful : Prop) :
    Represents layout careful .new ⟨0, 0, 0⟩ [] [] [] where
  head := rfl
  ringHead := rfl
  cachedHead := rfl
  cachedTail := rfl
  ringTail := rfl
  tail := rfl
  aligned := Nat.dvd_zero 4
  cachedHead_le := Nat.le_refl 0
  released_le := Nat.le_refl 0
  bounded := by
    have fits := layout.offset_add_four_le (Nat.dvd_zero 4)
    simpa [finishOf, headerSize] using fits
  stored := trivial
  history := rfl

variable {ring : ByteRing} {marks : RingMarks} {seen unseen unpublished : List Entry}

section

variable (represents : Represents layout careful ring marks seen unseen unpublished)

include represents

theorem sending (phase : SendPhase) :
    Represents layout careful { ring with sending := phase } marks seen unseen unpublished :=
  { represents with }

theorem reloadHead :
    Represents layout careful ring.reloadHead { marks with cachedHead := marks.released } seen
      unseen unpublished :=
  { represents with
    cachedHead := represents.ringHead
    cachedHead_le := Nat.le_refl _
    bounded := represents.bounded.trans (Nat.add_le_add_right represents.cachedHead_le _) }

theorem reloadTail :
    Represents layout careful ring.reloadTail marks (seen ++ unseen) [] unpublished :=
  { represents with
    cachedTail := represents.ringTail
    ringTail := by simpa [ByteRing.reloadTail] using represents.ringTail
    tail := by simpa [ByteRing.reloadTail] using represents.tail
    bounded := by simpa using represents.bounded
    stored := by simpa [ByteRing.reloadTail] using represents.stored
    history := by simpa [ByteRing.reloadTail] using represents.history }

theorem publish (phase : SendPhase) :
    Represents layout careful
      { ring with ring := { ring.ring with tail := ring.producer.tail }, sending := phase } marks
      seen (unseen ++ unpublished) [] :=
  { represents with
    ringTail := by simpa using represents.tail
    tail := by simpa using represents.tail
    bounded := by simpa using represents.bounded
    stored := by simpa using represents.stored
    history := by simpa using represents.history }

theorem cachedHead_le_tail :
    marks.cachedHead ≤ finishOf layout marks.read (seen ++ unseen ++ unpublished) :=
  represents.cachedHead_le.trans (represents.released_le.trans (le_finishOf layout _ _))

/-- The room the sender computes is what is left up to one capacity behind the head it knows. -/
theorem free_add :
    ring.free layout + finishOf layout marks.read (seen ++ unseen ++ unpublished) =
      marks.cachedHead + layout.capacity := by
  have ordered := represents.cachedHead_le_tail
  have bounded := represents.bounded
  have range := layout.capacity_lt
  rw [ByteRing.free, ByteRing.freeSpace, represents.tail, represents.cachedHead,
    toNat_sub_cursorAt 0 ordered (by omega), if_neg (by unfold headerSize at bounded; omega)]
  omega

theorem contiguous_eq :
    ring.contiguous layout = layout.capacity -
      finishOf layout marks.read (seen ++ unseen ++ unpublished) % layout.capacity := by
  rw [ByteRing.contiguous, represents.tail, layout.offset_cursorAt]

/-- An entry is written behind the others. -/
theorem append {entry : Entry} {buf : Nat → UInt8}
    (kept : Stored layout careful buf marks.read (seen ++ unseen ++ unpublished))
    (lies : entry.Lies layout careful buf
      (finishOf layout marks.read (seen ++ unseen ++ unpublished)))
    (room : entry.finish layout (finishOf layout marks.read (seen ++ unseen ++ unpublished)) +
      headerSize ≤ marks.cachedHead + layout.capacity)
    {tail : BitVec 64}
    (tail_eq : tail =
      cursorAt 0 (entry.finish layout (finishOf layout marks.read (seen ++ unseen ++ unpublished))))
    (phase : SendPhase) :
    Represents layout careful
      { ring with
        ring := { ring.ring with buf }
        producer := { ring.producer with tail }
        sending := phase
        accepted := ring.accepted ++ [entry.data] } marks seen unseen (unpublished ++ [entry]) := by
  have finish_eq : finishOf layout marks.read (seen ++ unseen ++ (unpublished ++ [entry])) =
      entry.finish layout (finishOf layout marks.read (seen ++ unseen ++ unpublished)) := by
    rw [← append_assoc, finishOf_append]
    rfl
  exact { represents with
    tail := by rw [finish_eq, tail_eq]
    bounded := by rwa [finish_eq]
    stored := by
      rw [← append_assoc, stored_append]
      exact ⟨kept, lies, trivial⟩
    history := by simp [represents.history] }

end

variable {data : Bytes}

/-- A header and a payload which were written are read back. -/
theorem read_entry (buf : Nat → UInt8) (offset : Nat) (short : data.length < wrapSentinel) :
    BigEndian.decode (read (write buf offset (BigEndian.encode headerSize data.length ++ data))
        offset headerSize) = data.length ∧
      read (write buf offset (BigEndian.encode headerSize data.length ++ data))
        (offset + headerSize) data.length = data := by
  have whole := read_write buf offset (BigEndian.encode headerSize data.length ++ data)
  rw [length_append, BigEndian.length_encode, read_append] at whole
  obtain ⟨header_eq, payload_eq⟩ := append_inj whole (by simp)
  refine ⟨?_, payload_eq⟩
  rw [header_eq]
  exact BigEndian.decode_encode_of_lt (short.trans (by decide))

section

variable (represents : Represents layout careful ring marks seen unseen unpublished)

include represents

theorem writeEntry (short : data.length < wrapSentinel)
    (room : alignedEntrySize data.length + headerSize ≤ ring.free layout)
    (inside : alignedEntrySize data.length ≤ ring.contiguous layout)
    (indexed : careful → data = [] →
      layout.offset ring.producer.tail + headerSize < layout.capacity) :
    Represents layout careful (ring.writeEntry layout data) marks seen unseen
      (unpublished ++ [⟨false, data⟩]) := by
  have free_add := represents.free_add
  have ordered := represents.cachedHead_le_tail
  have heads := represents.cachedHead_le.trans represents.released_le
  have fits := headerSize_le_alignedEntrySize data.length
  rw [represents.contiguous_eq] at inside
  have below := Nat.mod_lt (finishOf layout marks.read (seen ++ unseen ++ unpublished))
    layout.capacity_pos
  have offset_eq : layout.offset ring.producer.tail =
      finishOf layout marks.read (seen ++ unseen ++ unpublished) % layout.capacity := by
    rw [represents.tail, layout.offset_cursorAt]
  obtain ⟨header_eq, payload_eq⟩ := read_entry ring.ring.buf
    (finishOf layout marks.read (seen ++ unseen ++ unpublished) % layout.capacity) short
  have lies : (Entry.mk false data).Lies layout careful
      (write ring.ring.buf
        (finishOf layout marks.read (seen ++ unseen ++ unpublished) % layout.capacity)
        (BigEndian.encode headerSize data.length ++ data))
      (finishOf layout marks.read (seen ++ unseen ++ unpublished)) := by
    refine ⟨by simp, header_eq, payload_eq, short, ?_, fun taken => ?_⟩
    · change finishOf layout marks.read _ % layout.capacity + alignedEntrySize data.length ≤ _
      omega
    · change finishOf layout marks.read _ % layout.capacity + headerSize < _
      rw [← offset_eq]
      cases data with
      | nil => exact indexed taken rfl
      | cons byte rest =>
        rw [length_cons] at fits inside
        omega
  unfold ByteRing.writeEntry
  rw [offset_eq]
  refine represents.append ?_ lies ?_ ?_ .loadingTail
  · refine represents.stored.write (Nat.le_refl _) ?_ (by simp [headerSize])
    simp only [length_append, BigEndian.length_encode]
    omega
  · change finishOf layout marks.read _ + alignedEntrySize data.length + headerSize ≤ _
    omega
  · rw [represents.tail]
    exact cursorAt_add_ofNat 0 _ _

theorem writeWrapped (short : data.length < wrapSentinel)
    (room : ring.contiguous layout + alignedEntrySize data.length + headerSize ≤ ring.free layout) :
    Represents layout careful ((ring.writeWrap layout).writeEntry layout data) marks seen unseen
      (unpublished ++ [⟨true, data⟩]) := by
  have free_add := represents.free_add
  have ordered := represents.cachedHead_le_tail
  have heads := represents.cachedHead_le.trans represents.released_le
  have fits := headerSize_le_alignedEntrySize data.length
  have tail_aligned : 4 ∣ finishOf layout marks.read (seen ++ unseen ++ unpublished) :=
    four_dvd_finishOf represents.aligned _
  have kept := represents.stored
  have tail_eq := represents.tail
  have contiguous_eq := represents.contiguous_eq
  have header_fits := layout.offset_add_four_le tail_aligned
  have header_four : headerSize = 4 := rfl
  -- The mark lies at the write position and the entry at the next start of the buffer.
  set position := finishOf layout marks.read (seen ++ unseen ++ unpublished) with position_eq
  have start_eq : layout.nextStart position = position + ring.contiguous layout := by
    rw [contiguous_eq, RingLayout.nextStart]
  have offset_eq : layout.offset ring.producer.tail = position % layout.capacity := by
    rw [tail_eq, layout.offset_cursorAt]
  have moved_eq : (ring.writeWrap layout).producer.tail =
      cursorAt 0 (layout.nextStart position) := by
    rw [start_eq, ← cursorAt_add_ofNat, ← tail_eq]
    rfl
  have start_offset : layout.offset (ring.writeWrap layout).producer.tail =
      layout.nextStart position % layout.capacity := by
    rw [moved_eq, layout.offset_cursorAt]
  have buf_eq : (ring.writeWrap layout).ring.buf = write ring.ring.buf (position % layout.capacity)
      (BigEndian.encode headerSize wrapSentinel) := by
    rw [← offset_eq]
    rfl
  have values_length : (BigEndian.encode headerSize data.length ++ data).length =
      headerSize + data.length := by simp
  have marked_kept : Stored layout careful (ring.writeWrap layout).ring.buf marks.read
      (seen ++ unseen ++ unpublished) := by
    rw [buf_eq]
    refine kept.write (Nat.le_refl _) ?_ (by simp [headerSize])
    rw [BigEndian.length_encode]
    omega
  have entry_kept : Stored layout careful (write (ring.writeWrap layout).ring.buf
      (layout.nextStart position % layout.capacity)
      (BigEndian.encode headerSize data.length ++ data)) marks.read
      (seen ++ unseen ++ unpublished) := by
    refine marked_kept.write (by omega) ?_ (by simp [headerSize])
    omega
  have mark_apart : position % layout.capacity + headerSize ≤
        layout.nextStart position % layout.capacity ∨
      layout.nextStart position % layout.capacity + (headerSize + data.length) ≤
        position % layout.capacity :=
    apart_of_window position headerSize (layout.nextStart position) (headerSize + data.length)
      (by omega) (by omega) (by omega)
  obtain ⟨header_eq, payload_eq⟩ := read_entry (ring.writeWrap layout).ring.buf
    (layout.nextStart position % layout.capacity) short
  have lies : (Entry.mk true data).Lies layout careful (write (ring.writeWrap layout).ring.buf
      (layout.nextStart position % layout.capacity)
      (BigEndian.encode headerSize data.length ++ data)) position := by
    refine ⟨fun _ => ?_, header_eq, payload_eq, short, ?_, fun _ => ?_⟩
    · rw [read_write_of_apart _ (by omega), buf_eq]
      have mark_eq := read_write ring.ring.buf (position % layout.capacity)
        (BigEndian.encode headerSize wrapSentinel)
      rw [BigEndian.length_encode] at mark_eq
      rw [mark_eq]
      exact BigEndian.decode_encode_of_lt (by decide)
    · change layout.nextStart position % layout.capacity + alignedEntrySize data.length ≤ _
      rw [layout.nextStart_mod]
      omega
    · change layout.nextStart position % layout.capacity + headerSize < _
      rw [layout.nextStart_mod]
      omega
  have room_after : layout.nextStart position + alignedEntrySize data.length + headerSize ≤
      marks.cachedHead + layout.capacity := by omega
  have tail_after : (ring.writeWrap layout).producer.tail +
        BitVec.ofNat 64 (alignedEntrySize data.length) =
      cursorAt 0 (layout.nextStart position + alignedEntrySize data.length) := by
    rw [moved_eq, cursorAt_add_ofNat]
  unfold ByteRing.writeEntry
  rw [start_offset]
  exact represents.append entry_kept lies room_after tail_after .loadingTail

/-! ### Reading -/

/-- Positions of entries which were not read are less than the range of a cursor ahead. -/
theorem near :
    finishOf layout marks.read (seen ++ unseen ++ unpublished) - marks.read < 2 ^ 64 := by
  have bounded := represents.bounded
  have heads := represents.cachedHead_le.trans represents.released_le
  have range := layout.capacity_lt
  unfold headerSize at bounded
  omega

/-- Cursors tell whether entries lie between two positions. -/
theorem cursorAt_finishOf_iff {front back : List Entry}
    (whole : front ++ back = seen ++ unseen ++ unpublished) :
    cursorAt (0 : BitVec 64) marks.read = cursorAt 0 (finishOf layout marks.read front) ↔
      front = [] := by
  have near := represents.near
  have further := le_finishOf layout (finishOf layout marks.read front) back
  rw [← finishOf_append, whole] at further
  rw [cursorAt_inj 0 (le_finishOf layout _ _) (by omega)]
  cases front with
  | nil => simp [finishOf]
  | cons entry rest =>
    have started := entry.le_start layout marks.read
    have finished := entry.start_add_le_finish layout marks.read
    have later := le_finishOf layout (entry.finish layout marks.read) rest
    have positive : 0 < headerSize := by decide
    simp only [finishOf, foldl_cons, reduceCtorEq, iff_false]
    unfold finishOf at later
    omega

theorem exhausted_iff : ring.consumer.head = ring.consumer.cachedTail ↔ seen = [] := by
  rw [represents.head, represents.cachedTail]
  exact represents.cursorAt_finishOf_iff (append_assoc _ _ _).symm

end

theorem enter {entry : Entry}
    (represents : Represents layout careful ring marks (entry :: seen) unseen unpublished) :
    Represents layout careful (ring.moveHead (cursorAt 0 (entry.start layout marks.read)))
      { marks with read := entry.start layout marks.read }
      (⟨false, entry.data⟩ :: seen) unseen unpublished := by
  obtain ⟨lies, later⟩ := represents.stored
  have finish_eq (rest : List Entry) :
      finishOf layout (entry.start layout marks.read) (⟨false, entry.data⟩ :: rest) =
        finishOf layout marks.read (entry :: rest) := rfl
  have aligned : 4 ∣ entry.start layout marks.read := by
    unfold Entry.start
    split_ifs
    · exact layout.four_dvd_nextStart _
    · exact represents.aligned
  exact { represents with
    head := rfl
    cachedTail := represents.cachedTail
    ringTail := represents.ringTail
    tail := represents.tail
    aligned := aligned
    released_le := represents.released_le.trans (entry.le_start layout marks.read)
    bounded := represents.bounded
    stored := ⟨⟨by simp, lies.header, lies.payload, lies.short, lies.inside, lies.indexed⟩, later⟩
    history := represents.history }

theorem payload_eq
    (represents : Represents layout careful ring marks (⟨false, data⟩ :: seen) unseen unpublished) :
    ring.header layout ring.consumer.head = data.length ∧
      ring.payload layout ring.consumer.head = data :=
  represents.head ▸ represents.stored.1.payload_eq

/-- The entry at the head is found, unless it is an empty one which a careful sender does not
write. -/
theorem entryAt_eq
    (represents : Represents layout careful ring marks (⟨false, data⟩ :: seen) unseen unpublished) :
    ring.entryAt layout ring.consumer.head = .found data ∨
      ring.entryAt layout ring.consumer.head = .panicked ∧ ¬careful ∧ data = [] := by
  have lies := represents.stored.1
  have inside := lies.inside
  have indexed := lies.indexed
  have fits := headerSize_le_alignedEntrySize data.length
  simp only [Entry.start, Bool.false_eq_true, if_false] at inside indexed
  rw [ByteRing.entryAt, represents.payload_eq.2, represents.head, layout.offset_cursorAt]
  split_ifs with bounded
  · exact .inl rfl
  · refine .inr ⟨rfl, fun taken => bounded (indexed taken), length_eq_zero_iff.mp ?_⟩
    omega

/-- The next entry is looked at, behind a mark or not, and the head moves to it. -/
theorem readEntry {entry : Entry}
    (represents : Represents layout careful ring marks (entry :: seen) unseen unpublished) :
    let moved := ring.moveHead (cursorAt 0 (entry.start layout marks.read))
    ring.readEntry layout = (moved.entryAt layout moved.consumer.head, moved) := by
  have entered := represents.enter
  obtain ⟨lies, _⟩ := represents.stored
  intro moved
  obtain ⟨wrapped, data⟩ := entry
  cases wrapped with
  | false =>
    obtain ⟨header_eq, -⟩ := represents.payload_eq
    have short := lies.short
    rw [ByteRing.readEntry, if_neg (by rw [header_eq]; exact short.ne)]
    have unmoved : moved = ring := by
      change ring.moveHead (cursorAt 0 marks.read) = ring
      rw [← represents.head]
      rfl
    rw [unmoved]
  | true =>
    have marked : ring.header layout ring.consumer.head = wrapSentinel := by
      rw [ByteRing.header, represents.head, layout.offset_cursorAt]
      exact lies.marked rfl
    have moved_eq : ring.consumer.head +
          BitVec.ofNat 64 (layout.capacity - layout.offset ring.consumer.head) =
        cursorAt 0 (Entry.start layout marks.read ⟨true, data⟩) := by
      rw [represents.head, layout.offset_cursorAt, cursorAt_add_ofNat]
      rfl
    have pending := entered.exhausted_iff.not.mpr (by simp)
    simp only [ByteRing.readEntry, if_pos marked, moved_eq]
    exact if_neg pending

/-- The entry at the head is passed, and its room given back. -/
theorem advanceAndRelease {data : Bytes}
    (represents : Represents layout careful ring marks (⟨false, data⟩ :: seen) unseen unpublished) :
    Represents layout careful (ring.advanceAndRelease data)
      { marks with
        read := marks.read + alignedEntrySize data.length
        released := marks.read + alignedEntrySize data.length } seen unseen unpublished := by
  obtain ⟨_, later⟩ := represents.stored
  have head_eq : ring.consumer.head + BitVec.ofNat 64 (alignedEntrySize data.length) =
      cursorAt 0 (marks.read + alignedEntrySize data.length) := by
    rw [represents.head, cursorAt_add_ofNat]
  have heads := represents.cachedHead_le.trans represents.released_le
  exact { represents with
    head := head_eq
    ringHead := head_eq
    cachedTail := represents.cachedTail
    ringTail := represents.ringTail
    tail := represents.tail
    aligned := Nat.dvd_add represents.aligned (four_dvd_alignedEntrySize _)
    cachedHead_le := heads.trans (Nat.le_add_right _ _)
    released_le := Nat.le_refl _
    bounded := represents.bounded
    stored := later
    history := by simp [ByteRing.advanceAndRelease, represents.history] }

/-- A look at the next entry finds it, finds nothing, or has to load the tail first. -/
theorem beginPeek (represents : Represents layout careful ring marks seen unseen unpublished) :
    (seen = [] ∧ ring.beginPeek layout = (.load .loadingTail, ring)) ∨
      ∃ entry rest, seen = entry :: rest ∧ ring.beginPeek layout = ring.readEntry layout := by
  unfold ByteRing.beginPeek
  cases seen with
  | nil => exact .inl ⟨rfl, if_pos (represents.exhausted_iff.mpr rfl)⟩
  | cons entry rest =>
    exact .inr ⟨entry, rest, rfl, if_neg (represents.exhausted_iff.not.mpr (by simp))⟩

/-- After the tail was loaded, the next entry is found unless nothing is published. -/
theorem loadPeek (represents : Represents layout careful ring marks seen unseen unpublished) :
    (seen ++ unseen = [] ∧ ring.loadPeek layout .loadingTail = (.nothing, ring.reloadTail)) ∨
      ∃ entry rest, seen ++ unseen = entry :: rest ∧
        ring.loadPeek layout .loadingTail = ring.reloadTail.readEntry layout := by
  have loaded := represents.reloadTail
  simp only [ByteRing.loadPeek]
  cases published : seen ++ unseen with
  | nil => exact .inl ⟨rfl, if_pos (loaded.exhausted_iff.mpr published)⟩
  | cons entry rest =>
    exact .inr ⟨entry, rest, rfl, if_neg (loaded.exhausted_iff.not.mpr (by simp [published]))⟩

end Represents

/-! ## Sending -/

/-- A payload which may be written at the write position: an empty one does not begin with the last
header of the buffer. -/
def ByteRing.Indexed (layout : RingLayout) (ring : ByteRing) (data : Bytes) : Prop :=
  data = [] → layout.offset ring.producer.tail + headerSize < layout.capacity

/-- What the sender knows of the payload it is about to write. -/
def SendPhase.Ready (layout : RingLayout) (careful : Prop) (ring : ByteRing) : SendPhase → Prop
  | .loadingHead data | .loadingHeadToWrap data =>
    data.length < wrapSentinel ∧ (careful → ring.Indexed layout data)
  | _ => True

/-- A ring which represents entries, with a sender which may write what it is about to write. -/
structure ByteRing.Valid (layout : RingLayout) (careful : Prop) (ring : ByteRing)
    (marks : RingMarks) (seen unseen unpublished : List Entry) : Prop
    extends Represents layout careful ring marks seen unseen unpublished where
  ready : ring.sending.Ready layout careful ring

namespace ByteRing.Valid

variable {ring : ByteRing} {marks : RingMarks} {seen unseen unpublished : List Entry}

/-- An entry for which there is room in total is written, or the head is loaded again. -/
theorem writeOrWrap (represents : Represents layout careful ring marks seen unseen unpublished)
    {data : Bytes} (short : data.length < wrapSentinel)
    (room : alignedEntrySize data.length + headerSize ≤ ring.free layout)
    (indexed : careful → ring.Indexed layout data) :
    ∃ written,
      ByteRing.Valid layout careful (ring.writeOrWrap layout data) marks seen unseen written := by
  unfold ByteRing.writeOrWrap
  split_ifs with cut wide
  · exact ⟨_, represents.sending _, short, indexed⟩
  · exact ⟨_, represents.writeWrapped short (by omega), trivial⟩
  · exact ⟨_, represents.writeEntry short room (by omega) indexed, trivial⟩

/-- An access of the sender keeps the ring valid; what the receiver knows does not change. -/
theorem sendStep (valid : ring.Valid layout careful marks seen unseen unpublished)
    {action : SendAction} {after : ByteRing} (sent : ring.sendStep layout action = some after)
    (indexed : ∀ {data}, action = .push data → careful → ring.Indexed layout data) :
    ∃ cachedHead published written,
      after.Valid layout careful { marks with cachedHead } seen published written := by
  have represents := valid.toRepresents
  have ready := valid.ready
  revert sent
  fun_cases ring.sendStep layout action <;> rintro ⟨⟩
  · -- push of too long a payload
    exact ⟨_, _, _, represents.sending .idle, trivial⟩
  next data _ _ _ => -- push without room
    have fits : data.length < wrapSentinel := by omega
    exact ⟨_, _, _, represents.sending (.loadingHead data), fits, indexed rfl⟩
  next data _ _ _ => -- push
    have fits : data.length < wrapSentinel := by omega
    obtain ⟨written, after⟩ := writeOrWrap represents fits (by omega) (indexed rfl)
    exact ⟨_, _, written, after⟩
  · -- loadHead without room
    exact ⟨_, _, _, represents.reloadHead.sending .idle, trivial⟩
  next loading _ room => -- loadHead
    rw [loading] at ready
    obtain ⟨written, after⟩ :=
      writeOrWrap represents.reloadHead ready.1 (Nat.not_lt.mp room) ready.2
    exact ⟨_, _, written, after⟩
  · -- loadHeadToWrap without room
    exact ⟨_, _, _, represents.reloadHead.sending .idle, trivial⟩
  next loading _ room => -- loadHeadToWrap
    rw [loading] at ready
    exact ⟨_, _, _, represents.reloadHead.writeWrapped ready.1 (Nat.not_lt.mp room), trivial⟩
  · -- loadTail
    exact ⟨_, _, _, represents.sending _, trivial⟩
  · -- look
    exact ⟨_, _, _, represents.sending _, trivial⟩
  next wasEmpty _ => -- publish
    refine ⟨_, _, _, represents.publish _, ?_⟩
    cases wasEmpty <;> trivial

end ByteRing.Valid

end Omq.Libzmq
