import Omq.Proto.Message

/-!
# The chunked input buffer

`Chunks` is the mutable representation: the front chunk with a read offset, the chunks behind it,
and a byte counter.  `ChunkedInputBuf` adds the layout invariant, and every operation is
characterised by its effect on the buffered byte string `bytes`.
-/

namespace Omq

open List

/-- The representation of the input buffer. -/
structure Chunks where
  front : Bytes
  rest : List Bytes
  totalLen : Nat
  /-- Bytes of the front chunk already consumed. -/
  frontOffset : Nat

namespace Chunks

variable (chunks : Chunks)

def frontRemaining : Bytes := chunks.front.drop chunks.frontOffset

def bytes : Bytes := chunks.frontRemaining ++ chunks.rest.flatten

/-- Append a chunk; empty chunks are dropped. -/
def push (chunk : Bytes) : Chunks :=
  if chunk = [] then chunks
  else if chunks.front.length ≤ chunks.frontOffset then
    { chunks with
      front := chunk
      frontOffset := 0
      totalLen := chunks.totalLen + chunk.length }
  else
    { chunks with
      rest := chunks.rest ++ [chunk]
      totalLen := chunks.totalLen + chunk.length }

/-- Copy bytes out of successive chunks until `count` of them are collected. -/
def gather : (count : Nat) → List Bytes → Bytes
  | _, [] => []
  | count, chunk :: rest => chunk.take count ++ gather (count - chunk.length) rest

variable (count : Nat)

/-- The first `count` bytes, without consuming them. -/
def peekArray (chunks : Chunks) : Option Bytes :=
  if chunks.totalLen < count then none
  else if count ≤ chunks.frontRemaining.length then some (chunks.frontRemaining.take count)
  else some (gather count (chunks.frontRemaining :: chunks.rest))

def gatherAt : (offset count : Nat) → List Bytes → Bytes
  | _, _, [] => []
  | offset, count, chunk :: rest =>
    if chunk.length ≤ offset then gatherAt (offset - chunk.length) count rest
    else gather count (chunk.drop offset :: rest)

def peekArrayAt (count offset : Nat) (chunks : Chunks) : Option Bytes :=
  if chunks.totalLen < offset + count then none
  else some (gatherAt offset count (chunks.frontRemaining :: chunks.rest))

def advanceFront : Chunks :=
  match chunks.rest with
  | next :: rest => { chunks with front := next, rest := rest, frontOffset := 0 }
  | [] => { chunks with front := [], frontOffset := 0 }

def advanceLoop (count : Nat) (front : Bytes) (frontOffset : Nat) :
    List Bytes → Bytes × Nat × List Bytes
  | [] =>
    if count = 0 then (front, frontOffset, [])
    else if front.length - frontOffset ≤ count then ([], 0, [])
    else (front, frontOffset + count, [])
  | next :: rest =>
    if count = 0 then (front, frontOffset, next :: rest)
    else if front.length - frontOffset ≤ count then
      advanceLoop (count - (front.length - frontOffset)) next 0 rest
    else (front, frontOffset + count, next :: rest)

/-- Consume the first `count` bytes. -/
def advance (chunks : Chunks) : Chunks :=
  let (front, frontOffset, rest) := advanceLoop count chunks.front chunks.frontOffset chunks.rest
  { front, rest, frontOffset, totalLen := chunks.totalLen - count }

/-- Consume `count` bytes of the front chunk, moving on when it is exhausted. -/
def consumeFront (chunks : Chunks) : Chunks :=
  let moved :=
    { chunks with
      frontOffset := chunks.frontOffset + count
      totalLen := chunks.totalLen - count }
  if chunks.front.length ≤ chunks.frontOffset + count then moved.advanceFront else moved

/-- The copying loop of `read_into` and `split_to` over the chunks behind the front. -/
def takeLoop (count : Nat) (front : Bytes) (frontOffset : Nat) :
    List Bytes → Bytes × Bytes × Nat × List Bytes
  | [] =>
    if count < front.length - frontOffset then
      ((front.drop frontOffset).take count, front, frontOffset + count, [])
    else (front.drop frontOffset, [], 0, [])
  | next :: rest =>
    if count < front.length - frontOffset then
      ((front.drop frontOffset).take count, front, frontOffset + count, next :: rest)
    else
      let (copied, front', frontOffset', rest') :=
        takeLoop (count - (front.length - frontOffset)) next 0 rest
      (front.drop frontOffset ++ copied, front', frontOffset', rest')

/-- Take the first `count` bytes out of the buffer as one byte string. -/
def take (chunks : Chunks) : Bytes × Chunks :=
  if count = 0 then ([], chunks)
  else if count ≤ chunks.front.length - chunks.frontOffset then
    (chunks.frontRemaining.take count, chunks.consumeFront count)
  else
    let (copied, front, frontOffset, rest) :=
      takeLoop count chunks.front chunks.frontOffset chunks.rest
    (copied, { front, rest, frontOffset, totalLen := chunks.totalLen - count })

/-- Layout invariant: the counter is exact, and chunks wait only behind an unread front. -/
structure WellFormed (chunks : Chunks) : Prop where
  total : chunks.totalLen = chunks.bytes.length
  queued : ∀ chunk ∈ chunks.rest, chunk ≠ []
  /-- An exhausted front has nothing behind it. -/
  unread : chunks.rest ≠ [] → chunks.frontOffset < chunks.front.length

theorem gather_eq_take (list : List Bytes) : gather count list = list.flatten.take count := by
  induction list generalizing count with
  | nil => simp [gather]
  | cons chunk rest ih => simp [gather, ih, take_append]

theorem gatherAt_eq_take (offset count : Nat) (list : List Bytes) :
    gatherAt offset count list = (list.flatten.drop offset).take count := by
  induction list generalizing offset with
  | nil => simp [gatherAt]
  | cons chunk rest ih =>
    rw [gatherAt]
    split
    next skipped =>
      rw [ih, flatten_cons, drop_append, drop_eq_nil_of_le skipped, nil_append]
    next inside =>
      have offset_le : offset - chunk.length = 0 := by omega
      rw [gather_eq_take, flatten_cons, flatten_cons, drop_append, offset_le, drop_zero]

private theorem drop_append_of_length_le {left right : Bytes} {count : Nat}
    (short : left.length ≤ count) :
    (left ++ right).drop count = right.drop (count - left.length) := by
  rw [drop_append, drop_eq_nil_of_le short, nil_append]

private theorem take_append_of_length_le {left right : Bytes} {count : Nat}
    (short : left.length ≤ count) :
    (left ++ right).take count = left ++ right.take (count - left.length) := by
  rw [take_append, take_of_length_le short]

theorem takeLoop_spec (count : Nat) (front : Bytes) (frontOffset : Nat) (rest : List Bytes)
    (queued : ∀ chunk ∈ rest, chunk ≠ []) :
    let (copied, front', frontOffset', rest') := takeLoop count front frontOffset rest
    copied = (front.drop frontOffset ++ rest.flatten).take count ∧
      front'.drop frontOffset' ++ rest'.flatten =
        (front.drop frontOffset ++ rest.flatten).drop count ∧
      (∀ chunk ∈ rest', chunk ≠ []) ∧ (rest' ≠ [] → frontOffset' < front'.length) := by
  induction rest generalizing count front frontOffset with
  | nil =>
    simp only [takeLoop]
    split
    next partly => simp [drop_drop]
    next whole =>
      have short : (front.drop frontOffset).length ≤ count := by simp; omega
      simp [take_of_length_le short]
      omega
  | cons next rest ih =>
    simp only [takeLoop]
    split
    next partly =>
      have inside : count ≤ (front.drop frontOffset).length := by simp; omega
      refine ⟨?_, ?_, queued, fun _ => by dsimp only; omega⟩
      · rw [take_append_of_le_length inside]
      · rw [drop_append_of_le_length inside, drop_drop]
    next whole =>
      have short : (front.drop frontOffset).length ≤ count := by simp; omega
      obtain ⟨copied_eq, bytes_eq, later⟩ :=
        ih (count - (front.length - frontOffset)) next 0
          (fun chunk member => queued chunk (by simp [member]))
      refine ⟨?_, ?_, later⟩
      · rw [copied_eq, take_append_of_length_le short]
        simp
      · rw [bytes_eq, drop_append_of_length_le short]
        simp

theorem advanceLoop_eq {count : Nat} {front : Bytes} {frontOffset : Nat} {rest : List Bytes}
    (queued : ∀ chunk ∈ rest, chunk ≠ []) (needed : count ≠ 0 ∨ frontOffset < front.length) :
    advanceLoop count front frontOffset rest = (takeLoop count front frontOffset rest).2 := by
  induction rest generalizing count front frontOffset with
  | nil => grind [advanceLoop, takeLoop]
  | cons next rest ih =>
    have next_nonempty := length_pos_of_ne_nil (queued next (by simp))
    have later := @ih (count - (front.length - frontOffset)) next 0
      (fun chunk member => queued chunk (by simp [member])) (.inr next_nonempty)
    grind [advanceLoop, takeLoop]

theorem bytes_push (wellFormed : chunks.WellFormed) (chunk : Bytes) :
    (chunks.push chunk).bytes = chunks.bytes ++ chunk := by
  unfold push
  split
  next empty => simp [empty]
  · split
    next exhausted =>
      have rest_nil : chunks.rest = [] := by
        by_contra waiting
        exact absurd (wellFormed.unread waiting) (by omega)
      simp [bytes, frontRemaining, rest_nil, drop_eq_nil_of_le exhausted]
    · simp [bytes, frontRemaining]

theorem WellFormed.push {chunks : Chunks} (wellFormed : chunks.WellFormed) (chunk : Bytes) :
    (chunks.push chunk).WellFormed := by
  have bytes_eq := bytes_push chunks wellFormed chunk
  revert bytes_eq
  fun_cases chunks.push chunk with
  | case1 => exact fun _ => wellFormed
  | case2 nonempty =>
    intro bytes_eq
    refine ⟨?_, wellFormed.queued, fun _ => length_pos_of_ne_nil nonempty⟩
    rw [bytes_eq, wellFormed.total, length_append]
  | case3 nonempty =>
    intro bytes_eq
    exact ⟨by rw [bytes_eq, wellFormed.total, length_append],
      forall_mem_append.mpr ⟨wellFormed.queued, forall_mem_singleton.mpr nonempty⟩, by simp_all⟩

/-- What a loop leaves behind, once its bytes are those after the first `count`. -/
theorem WellFormed.rest {chunks : Chunks} (wellFormed : chunks.WellFormed) {count : Nat}
    {front : Bytes} {frontOffset : Nat} {rest : List Bytes}
    (bytes_eq : front.drop frontOffset ++ rest.flatten = chunks.bytes.drop count)
    (queued : ∀ chunk ∈ rest, chunk ≠ []) (unread : rest ≠ [] → frontOffset < front.length) :
    Chunks.WellFormed ⟨front, rest, chunks.totalLen - count, frontOffset⟩ :=
  ⟨by rw [bytes, frontRemaining, bytes_eq, length_drop, wellFormed.total], queued, unread⟩

theorem advance_spec (wellFormed : chunks.WellFormed) (count : Nat) :
    (chunks.advance count).bytes = chunks.bytes.drop count ∧ (chunks.advance count).WellFormed := by
  rcases Nat.eq_zero_or_pos count with rfl | needed
  · have same : chunks.advance 0 = chunks := by
      rcases chunks with ⟨front, _ | _, total, offset⟩ <;> rfl
    simpa [same] using wellFormed
  · obtain ⟨-, bytes_eq, queued, unread⟩ :=
      takeLoop_spec count chunks.front chunks.frontOffset chunks.rest wellFormed.queued
    rw [advance, advanceLoop_eq wellFormed.queued (.inl needed.ne')]
    exact ⟨bytes_eq, wellFormed.rest bytes_eq queued unread⟩

theorem consumeFront_spec (wellFormed : chunks.WellFormed) (count : Nat)
    (inside : count ≤ chunks.front.length - chunks.frontOffset) :
    (chunks.consumeFront count).bytes = chunks.bytes.drop count ∧
      (chunks.consumeFront count).WellFormed := by
  have bytes_eq : chunks.bytes.drop count =
      chunks.front.drop (chunks.frontOffset + count) ++ chunks.rest.flatten := by
    rw [bytes, frontRemaining, drop_append_of_le_length (by simpa using inside), drop_drop]
  have total_eq : chunks.totalLen - count = (chunks.bytes.drop count).length := by
    rw [length_drop, wellFormed.total]
  unfold consumeFront advanceFront
  simp only
  split
  next exhausted =>
    have front_nil : chunks.front.drop (chunks.frontOffset + count) = [] :=
      drop_eq_nil_of_le exhausted
    rw [front_nil, nil_append] at bytes_eq
    rw [bytes_eq] at total_eq ⊢
    cases rest_eq : chunks.rest with
    | nil =>
      rw [rest_eq] at total_eq
      refine ⟨by simp [bytes, frontRemaining], ?_, by simp, by simp⟩
      simpa [bytes, frontRemaining] using total_eq
    | cons next rest =>
      rw [rest_eq] at total_eq
      have queued := wellFormed.queued
      rw [rest_eq] at queued
      refine ⟨by simp [bytes, frontRemaining], ?_, ?_, ?_⟩
      · simpa [bytes, frontRemaining] using total_eq
      · exact fun chunk member => queued chunk (by simp [member])
      · exact fun _ => length_pos_of_ne_nil (queued next (by simp))
  next remaining =>
    refine ⟨by rw [bytes_eq]; rfl, ?_, wellFormed.queued, fun _ => Nat.lt_of_not_le remaining⟩
    rw [bytes_eq] at total_eq
    exact total_eq

theorem take_spec (wellFormed : chunks.WellFormed) (count : Nat) :
    (chunks.take count).1 = chunks.bytes.take count ∧
      (chunks.take count).2.bytes = chunks.bytes.drop count ∧
      (chunks.take count).2.WellFormed := by
  fun_cases take count chunks with
  | case1 none => simpa [none] using wellFormed
  | case2 _ inside =>
    refine ⟨?_, consumeFront_spec chunks wellFormed count inside⟩
    rw [bytes, take_append_of_le_length]
    simpa [frontRemaining] using inside
  | case3 _ _ copied front frontOffset rest taken =>
    have loop := takeLoop_spec count chunks.front chunks.frontOffset chunks.rest wellFormed.queued
    rw [taken] at loop
    obtain ⟨copied_eq, bytes_eq, queued, unread⟩ := loop
    exact ⟨copied_eq, bytes_eq, wellFormed.rest bytes_eq queued unread⟩

end Chunks

/-- The input buffer: chunks together with their layout invariant. -/
structure ChunkedInputBuf where
  chunks : Chunks
  wellFormed : chunks.WellFormed

namespace ChunkedInputBuf

def new : ChunkedInputBuf where
  chunks := { front := [], rest := [], totalLen := 0, frontOffset := 0 }
  wellFormed := ⟨rfl, by simp, by simp⟩

variable (buf : ChunkedInputBuf)

def bytes : Bytes := buf.chunks.bytes

def len : Nat := buf.chunks.totalLen

def push (chunk : Bytes) : ChunkedInputBuf :=
  ⟨buf.chunks.push chunk, buf.wellFormed.push chunk⟩

variable (count : Nat)

def peekArray : Option Bytes :=
  buf.chunks.peekArray count

def peekArrayAt (count offset : Nat) : Option Bytes :=
  buf.chunks.peekArrayAt count offset

def advance : ChunkedInputBuf :=
  ⟨buf.chunks.advance count, (Chunks.advance_spec _ buf.wellFormed count).2⟩

/-- Copy out and consume the first `count` bytes. -/
def readInto : Bytes × ChunkedInputBuf :=
  ((buf.chunks.take count).1,
    ⟨(buf.chunks.take count).2, (Chunks.take_spec _ buf.wellFormed count).2.2⟩)

def splitTo : Payload × ChunkedInputBuf :=
  (Payload.fromSlice (buf.readInto count).1, (buf.readInto count).2)

theorem len_eq : buf.len = buf.bytes.length := buf.wellFormed.total

@[simp]
theorem bytes_push (chunk : Bytes) : (buf.push chunk).bytes = buf.bytes ++ chunk :=
  Chunks.bytes_push _ buf.wellFormed chunk

variable (count : Nat)

@[simp]
theorem bytes_advance : (buf.advance count).bytes = buf.bytes.drop count :=
  (Chunks.advance_spec _ buf.wellFormed count).1

@[simp]
theorem readInto_fst : (buf.readInto count).1 = buf.bytes.take count :=
  (Chunks.take_spec _ buf.wellFormed count).1

@[simp]
theorem bytes_readInto : (buf.readInto count).2.bytes = buf.bytes.drop count :=
  (Chunks.take_spec _ buf.wellFormed count).2.1

@[simp]
theorem splitTo_fst : (buf.splitTo count).1 = Payload.fromSlice (buf.bytes.take count) := by
  rw [splitTo, readInto_fst]

@[simp]
theorem bytes_splitTo : (buf.splitTo count).2.bytes = buf.bytes.drop count :=
  bytes_readInto buf count

/-- Peeking depends on the buffered bytes only, not on how they are chunked. -/
theorem peekArray_eq :
    buf.peekArray count =
      if buf.bytes.length < count then none else some (buf.bytes.take count) := by
  unfold peekArray Chunks.peekArray
  rw [buf.wellFormed.total]
  change (if buf.bytes.length < count then none else _) = _
  congr 1
  split
  next inside =>
    rw [bytes, Chunks.bytes, take_append_of_le_length inside]
  · rw [Chunks.gather_eq_take]
    rfl

theorem peekArrayAt_eq (count offset : Nat) :
    buf.peekArrayAt count offset =
      if buf.bytes.length < offset + count then none
      else some ((buf.bytes.drop offset).take count) := by
  unfold peekArrayAt Chunks.peekArrayAt
  rw [buf.wellFormed.total, Chunks.gatherAt_eq_take]
  rfl

/-- A call on the buffer; the lengths of arrays are constant parameters in the source. -/
inductive Call where
  | push (chunk : Bytes)
  | peekArray (count : Nat)
  | peekArrayAt (count offset : Nat)
  | advance (count : Nat)
  | readInto (count : Nat) (dest : Bytes)
  | splitTo (count : Nat)

inductive Answer where
  | unit
  | array (peeked : Option Bytes)
  | filled (dest : Bytes)
  | payload (payload : Payload)

/-- A call with its assertions; `none` is a panic. -/
def call : Call → StateT ChunkedInputBuf Option Answer
  | .push chunk, buf => some (.unit, buf.push chunk)
  | .peekArray count, buf => some (.array (buf.peekArray count), buf)
  | .peekArrayAt count offset, buf =>
    if usizeMax < offset + count then none
    -- A byte behind the offset is stored before the array is found to be full.
    else if count = 0 ∧ offset < buf.len then none
    else some (.array (buf.peekArrayAt count offset), buf)
  | .advance count, buf => if buf.len < count then none else some (.unit, buf.advance count)
  | .readInto count dest, buf =>
    if buf.len < count ∨ dest.length < count then none
    else some (.filled ((buf.readInto count).1 ++ dest.drop count), (buf.readInto count).2)
  | .splitTo count, buf =>
    if buf.len < count then none
    else some (.payload (buf.splitTo count).1, (buf.splitTo count).2)

/-- The same call on a flat byte string. -/
def flatCall : Call → StateT Bytes Option Answer
  | .push chunk, bytes => some (.unit, bytes ++ chunk)
  | .peekArray count, bytes =>
    some (.array (if bytes.length < count then none else some (bytes.take count)), bytes)
  | .peekArrayAt count offset, bytes =>
    some (.array (if bytes.length < offset + count then none
      else some ((bytes.drop offset).take count)), bytes)
  | .advance count, bytes =>
    if bytes.length < count then none else some (.unit, bytes.drop count)
  | .readInto count dest, bytes =>
    if bytes.length < count ∨ dest.length < count then none
    else some (.filled (bytes.take count ++ dest.drop count), bytes.drop count)
  | .splitTo count, bytes =>
    if bytes.length < count then none
    else some (.payload (.fromSlice (bytes.take count)), bytes.drop count)

/-- The offset is a machine word, and an empty array is asked for only behind the last byte. -/
def Call.Regular (bytes : Bytes) : Call → Prop
  | .peekArrayAt count offset => offset + count ≤ usizeMax ∧ (count = 0 → bytes.length ≤ offset)
  | _ => True

/-- All calls are regular on the bytes which the earlier ones left. -/
def Regular : List Call → Bytes → Prop
  | [], _ => True
  | request :: requests, bytes =>
    request.Regular bytes ∧
      ∀ answer rest, flatCall request bytes = some (answer, rest) → Regular requests rest

/-- What a call answers and the bytes it leaves. -/
def view {α : Type} : α × ChunkedInputBuf → α × Bytes := Prod.map id bytes

theorem view_call_iff (request : Call) (buf : ChunkedInputBuf) :
    (call request buf).map view = flatCall request buf.bytes ↔ request.Regular buf.bytes := by
  cases request with
  | peekArrayAt count offset =>
    simp only [call, flatCall, Call.Regular, len_eq, peekArrayAt_eq]
    split_ifs <;> simp [view] <;> omega
  | readInto count dest =>
    simp only [call, flatCall, Call.Regular, len_eq]
    split_ifs <;> simp [view]
  | _ => simp [call, flatCall, Call.Regular, view, len_eq, peekArray_eq, apply_ite]

theorem view_calls {requests : List Call} {buf : ChunkedInputBuf}
    (regular : Regular requests buf.bytes) :
    (requests.mapM call buf).map view = requests.mapM flatCall buf.bytes := by
  induction requests generalizing buf with
  | nil => rfl
  | cons request requests ih =>
    have first := (view_call_iff request buf).mpr regular.1
    cases called : call request buf with
    | none => simp [mapM_cons, bind, StateT.bind, ← first, called]
    | some reached =>
      have flat : flatCall request buf.bytes = some (view reached) := by rw [← first, called]; rfl
      have later := ih (regular.2 _ _ flat)
      simp only [mapM_cons, bind, StateT.bind, called, flat, Option.bind_some]
      change _ = (mapM flatCall requests reached.2.bytes).bind _
      rw [← later]
      cases mapM call requests reached.2 <;> rfl

/-- Calls answer as on a flat byte string, but for an empty array in the middle of the bytes. -/
theorem refines_flat :
    buf.len = buf.bytes.length ∧
      (∀ request, (call request buf).map view = flatCall request buf.bytes ↔
        request.Regular buf.bytes) ∧
      ∀ requests, Regular requests buf.bytes →
        (requests.mapM call buf).map view = requests.mapM flatCall buf.bytes :=
  ⟨buf.len_eq, (view_call_iff · buf), fun _ => view_calls⟩

theorem empty_array_panics :
    call (.peekArrayAt 0 0) (new.push [1]) = none ∧
      flatCall (.peekArrayAt 0 0) (new.push [1]).bytes = some (.array (some []), [1]) :=
  ⟨rfl, rfl⟩

theorem straddling_reads :
    Option.map view ([.push [1, 2], .push [3], .peekArrayAt 2 1, .advance 3].mapM call new) =
      some ([.unit, .unit, .array (some [2, 3]), .unit], []) :=
  ((refines_flat new).2.2 _ (by simp [Regular, Call.Regular, flatCall, usizeMax])).trans rfl

end ChunkedInputBuf

end Omq
