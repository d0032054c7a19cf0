import Omq.Proto.ChunkedBuf

/-!
# The ZMTP frame codec

A frame is a flags byte, a one-byte or eight-byte big-endian size, and the payload.  The decoder
is stated twice: over the chunked input buffer as the engine runs it, and over a flat byte string;
`peekFrameHeader_eq` and `tryDecodeFrame_eq` identify the two.
-/

namespace Omq

open List

def flagMore : UInt8 := 0x01

/-- The size field has eight bytes. -/
def flagLong : UInt8 := 0x02

def flagCommand : UInt8 := 0x04

/-- Bits which must be zero. -/
def flagReservedMask : UInt8 := 0xF8

def maxShortFrameSize : Nat := 255

/-- Header length of a frame with an eight-byte size. -/
def maxFrameHeaderLen : Nat := 9

def headerLenFor (payloadLen : Nat) : Nat :=
  if maxShortFrameSize < payloadLen then maxFrameHeaderLen else 2

variable (flags : FrameFlags)

/-- The flags byte without the size bit. -/
def FrameFlags.wire : UInt8 :=
  (if flags.more then flagMore else 0) ||| (if flags.command then flagCommand else 0)

def frameHeader (payloadLen : Nat) : Bytes :=
  if maxShortFrameSize < payloadLen then
    (flags.wire ||| flagLong) :: BigEndian.encode 8 payloadLen
  else [flags.wire, UInt8.ofNat payloadLen]

/-- The chunks a frame adds to the outbound queue: its header and its nonempty payload. -/
def encodeFrameInto (frame : Frame) : List Bytes :=
  let header := frameHeader frame.flags frame.payload.len
  if frame.payload.asSlice = [] then [header] else [header, frame.payload.asSlice]

def encodeFrame (frame : Frame) : Bytes := (encodeFrameInto frame).flatten

def writeFrameHeader (more : Bool) (payloadLen : Nat) : Bytes :=
  let flags : UInt8 := if more then 1 else 0
  if maxShortFrameSize < payloadLen then
    (flags ||| flagLong) :: BigEndian.encode 8 payloadLen
  else [flags, UInt8.ofNat payloadLen]

/-- Data frames for the given slices, the last one without the MORE bit. -/
def encodeSlicesFlat (pre : Bytes) : List Bytes → Bytes
  | [] => []
  | slice :: rest =>
    writeFrameHeader (!rest.isEmpty) (pre.length + slice.length) ++ pre ++ slice ++
      encodeSlicesFlat pre rest

/-- A prefix in front of every part belongs to the part. -/
theorem encodeSlicesFlat_behind (pre : Bytes) (slices : List Bytes) :
    encodeSlicesFlat [] (slices.map (pre ++ ·)) = encodeSlicesFlat pre slices := by
  induction slices with
  | nil => rfl
  | cons slice rest induction => simp [encodeSlicesFlat, induction]

def encodeMessageFlat (message : Message) : Bytes := encodeSlicesFlat [] message.parts

def encodeMessagePrefixedFlat (pre : Bytes) (message : Message) : Bytes :=
  encodeSlicesFlat pre message.parts

/-- A frame header parsed without consuming bytes. -/
structure PeekedFrameHeader where
  flags : FrameFlags
  headerLen : Nat
  payloadLen : Nat

/-- The flags of a header byte, or the violation it commits. -/
def parseFlags (flags : UInt8) : Except Error FrameFlags :=
  if flags &&& flagReservedMask ≠ 0 then
    .error (.protocol ("reserved ZMTP flag bits set: 0x" ++ hexByte flags))
  else
    let more := flags &&& flagMore ≠ 0
    let command := flags &&& flagCommand ≠ 0
    if command ∧ more then .error (.protocol "COMMAND frame must not have MORE")
    else .ok ⟨more, command⟩

def parseLongHeader (header : Bytes) : Except Error PeekedFrameHeader :=
  let size := BigEndian.decode (header.drop 1)
  if usizeMax < size then
    .error (.protocol ("frame size " ++ toString size ++ " exceeds platform usize"))
  else if isizeMax < size then
    .error (.protocol ("frame size " ++ toString size ++ " exceeds maximum allocation"))
  else .ok ⟨flags, maxFrameHeaderLen, size⟩

variable (buf : ChunkedInputBuf)

def peekFrameHeader : Except Error (Option PeekedFrameHeader) :=
  match buf.peekArray 1 with
  | none => .ok none
  | some first => do
      let byte := first.headD 0
      let flags ← parseFlags byte
      if byte &&& flagLong ≠ 0 then
        match buf.peekArray maxFrameHeaderLen with
        | none => .ok none
        | some header => some <$> parseLongHeader flags header
      else
        match buf.peekArray 2 with
        | none => .ok none
        | some header => .ok (some ⟨flags, 2, (header.getD 1 0).toNat⟩)

def tryDecodeFrame : Except Error (Option (Frame × ChunkedInputBuf)) := do
  match ← peekFrameHeader buf with
  | none => .ok none
  | some header =>
    let total := header.headerLen + header.payloadLen
    if usizeMax < total then .error (.protocol "frame size overflow")
    else if buf.len < total then .ok none
    else
      let (payload, rest) := (buf.advance header.headerLen).splitTo header.payloadLen
      .ok (some (⟨header.flags, payload⟩, rest))

/-! ## The flat decoder -/

/-- The header at the front of a byte string, when it is complete. -/
def flatHeader : Bytes → Except Error (Option PeekedFrameHeader)
  | [] => .ok none
  | byte :: rest => do
      let flags ← parseFlags byte
      if byte &&& flagLong ≠ 0 then
        if rest.length < 8 then .ok none
        else some <$> parseLongHeader flags (byte :: rest.take 8)
      else
        match rest with
        | [] => .ok none
        | size :: _ => .ok (some ⟨flags, 2, size.toNat⟩)

/-- The frame at the front of a byte string and the bytes behind it, when it is complete. -/
def flatFrame (bytes : Bytes) : Except Error (Option (Frame × Bytes)) :=
  match flatHeader bytes with
  | .error error => .error error
  | .ok none => .ok none
  | .ok (some header) =>
    if bytes.length < header.headerLen + header.payloadLen then .ok none
    else
      let body := bytes.drop header.headerLen
      .ok (some (⟨header.flags, .fromSlice (body.take header.payloadLen)⟩,
        body.drop header.payloadLen))

theorem peekFrameHeader_eq : peekFrameHeader buf = flatHeader buf.bytes := by
  unfold peekFrameHeader
  rw [buf.peekArray_eq 1, buf.peekArray_eq maxFrameHeaderLen, buf.peekArray_eq 2]
  match buf.bytes with
  | [] => rfl
  | [byte] => simp [flatHeader, maxFrameHeaderLen]
  | byte :: size :: rest =>
    by_cases short : rest.length + 1 < 8
    · simp [flatHeader, maxFrameHeaderLen, short, show rest.length + 1 + 1 < 9 by omega]
    · simp [flatHeader, maxFrameHeaderLen, short, show ¬rest.length + 1 + 1 < 9 by omega]

theorem parseLongHeader_ok {flags : FrameFlags} {header : Bytes} {parsed : PeekedFrameHeader}
    (result : parseLongHeader flags header = .ok parsed) :
    parsed.headerLen = maxFrameHeaderLen ∧ parsed.payloadLen ≤ isizeMax := by
  revert result
  fun_cases parseLongHeader flags header <;> rintro ⟨⟩
  next bound => exact ⟨rfl, Nat.le_of_not_lt bound⟩

variable {bytes rest : Bytes} {header : PeekedFrameHeader} {frame : Frame}

/-- A parsed header is buffered, has two to nine bytes, and announces an allocatable payload. -/
theorem flatHeader_bounds (found : flatHeader bytes = .ok (some header)) :
    2 ≤ header.headerLen ∧ header.headerLen ≤ bytes.length ∧
      header.headerLen ≤ maxFrameHeaderLen ∧ header.payloadLen ≤ isizeMax := by
  match bytes with
  | [] => cases found
  | byte :: rest =>
    obtain ⟨flags, -, found⟩ := exceptBind_eq_ok.mp found
    split_ifs at found with long short
    · cases found
    · cases parsed_eq : parseLongHeader flags (byte :: rest.take 8) <;> rw [parsed_eq] at found <;>
        cases found
      obtain ⟨length_eq, bound⟩ := parseLongHeader_ok parsed_eq
      rw [length_eq, length_cons]
      exact ⟨by decide, by simp [maxFrameHeaderLen]; omega, le_rfl, bound⟩
    · match rest with
      | [] => cases found
      | size :: rest =>
        cases found
        have size_lt := size.toNat_lt
        refine ⟨le_rfl, by simp, by simp [maxFrameHeaderLen], ?_⟩
        simp only [isizeMax]
        omega

theorem length_of_flatHeader_none (unparsed : flatHeader bytes = .ok none) :
    bytes.length < maxFrameHeaderLen := by
  match bytes with
  | [] => decide
  | byte :: rest =>
    obtain ⟨flags, -, unparsed⟩ := exceptBind_eq_ok.mp unparsed
    split_ifs at unparsed with long short
    · exact Nat.succ_lt_succ short
    · cases parsed : parseLongHeader flags (byte :: rest.take 8) <;> rw [parsed] at unparsed <;>
        cases unparsed
    · match rest with
      | [] => exact Nat.succ_lt_succ (by decide)

/-- A header once determined, parsed or refused, is not changed by later bytes. -/
theorem flatHeader_append (determined : flatHeader bytes ≠ .ok none) (more : Bytes) :
    flatHeader (bytes ++ more) = flatHeader bytes := by
  match bytes with
  | [] => exact absurd rfl determined
  | byte :: rest =>
    rw [flatHeader] at determined
    rw [cons_append, flatHeader, flatHeader]
    cases flags_eq : parseFlags byte with
    | error error => rfl
    | ok flags =>
      simp only [flags_eq, bind, Except.bind] at determined ⊢
      split
      next long =>
        rw [if_pos long] at determined
        have enough : ¬rest.length < 8 := fun short => determined (by rw [if_pos short])
        rw [if_neg enough, if_neg (by rw [length_append]; omega),
          take_append_of_le_length (by omega)]
      next short =>
        rw [if_neg short] at determined
        match rest with
        | [] => exact absurd rfl determined
        | size :: rest => rfl

theorem parseFlags_wire (lawful : ¬(flags.command ∧ flags.more)) (long : Bool) :
    parseFlags (flags.wire ||| if long then flagLong else 0) = .ok flags := by
  obtain ⟨more, command⟩ := flags
  cases more <;> cases command <;> cases long <;> first | rfl | simp at lawful

/-- The decoder reads back the header the encoder wrote, whatever follows it. -/
theorem flatHeader_frameHeader (lawful : ¬(flags.command ∧ flags.more))
    {payloadLen : Nat} (bound : payloadLen ≤ isizeMax) (rest : Bytes) :
    flatHeader (frameHeader flags payloadLen ++ rest) =
      .ok (some ⟨flags, headerLenFor payloadLen, payloadLen⟩) := by
  have flags_long := parseFlags_wire flags lawful true
  have flags_short := parseFlags_wire flags lawful false
  simp only [if_true, Bool.false_eq_true, if_false, UInt8.or_zero] at flags_long flags_short
  unfold frameHeader headerLenFor
  split
  · have long_bit : (flags.wire ||| flagLong) &&& flagLong ≠ 0 := by
      obtain ⟨more, command⟩ := flags
      cases more <;> cases command <;> decide
    have field_length : (BigEndian.encode 8 payloadLen).length = 8 := by simp
    have size_eq : BigEndian.decode (BigEndian.encode 8 payloadLen) = payloadLen :=
      BigEndian.decode_encode_of_lt (bound.trans_lt isizeMax_lt)
    have fits : ¬usizeMax < payloadLen := by simp only [isizeMax, usizeMax] at *; omega
    rw [cons_append, flatHeader, flags_long]
    simp only [bind, Except.bind, if_pos long_bit]
    rw [if_neg (by rw [length_append]; omega),
      take_append_of_le_length (by omega), take_of_length_le (by omega)]
    simp [parseLongHeader, size_eq, fits, Nat.not_lt.mpr bound]
  next short =>
    have short_bit : ¬flags.wire &&& flagLong ≠ 0 := by
      obtain ⟨more, command⟩ := flags
      cases more <;> cases command <;> decide
    have size_eq : (UInt8.ofNat payloadLen).toNat = payloadLen := by
      simp only [maxShortFrameSize] at short
      simp
      omega
    rw [cons_append, flatHeader, flags_short]
    simp only [bind, Except.bind, if_neg short_bit, cons_append, size_eq]

@[simp]
theorem length_frameHeader (payloadLen : Nat) :
    (frameHeader flags payloadLen).length = headerLenFor payloadLen := by
  unfold frameHeader headerLenFor
  split <;> simp [maxFrameHeaderLen]

theorem encodeFrame_eq (frame : Frame) :
    encodeFrame frame = frameHeader frame.flags frame.payload.len ++ frame.payload.asSlice := by
  unfold encodeFrame encodeFrameInto
  simp only
  split
  next empty => simp [empty]
  · simp

theorem tryDecodeFrame_eq :
    (tryDecodeFrame buf).map (Option.map fun (frame, rest) => (frame, rest.bytes)) =
      flatFrame buf.bytes := by
  unfold tryDecodeFrame flatFrame
  rw [peekFrameHeader_eq]
  cases header_eq : flatHeader buf.bytes with
  | error error => rfl
  | ok found =>
    cases found with
    | none => rfl
    | some header =>
      obtain ⟨_, _, header_le, payload_le⟩ := flatHeader_bounds header_eq
      have fits : ¬usizeMax < header.headerLen + header.payloadLen := by
        simp only [isizeMax, maxFrameHeaderLen, usizeMax] at *
        omega
      simp only [bind, Except.bind, if_neg fits, buf.len_eq]
      split
      · rfl
      · simp [Except.map]

/-- Past its header a frame cannot be refused. -/
theorem flatFrame_ne_error (found : flatHeader bytes = .ok (some header)) (error : Error) :
    flatFrame bytes ≠ .error error := by
  unfold flatFrame
  rw [found]
  simp only
  split <;> simp

theorem flatFrame_eq_some_iff :
    flatFrame bytes = .ok (some (frame, rest)) ↔
      ∃ header, flatHeader bytes = .ok (some header) ∧
        header.headerLen + header.payloadLen ≤ bytes.length ∧
        frame = ⟨header.flags, .fromSlice ((bytes.drop header.headerLen).take header.payloadLen)⟩ ∧
        rest = (bytes.drop header.headerLen).drop header.payloadLen := by
  constructor
  · fun_cases flatFrame bytes <;> rintro ⟨⟩
    next header header_eq enough _ =>
      exact ⟨header, header_eq, Nat.le_of_not_lt enough, rfl, rfl⟩
  · rintro ⟨header, header_eq, enough, rfl, rfl⟩
    rw [flatFrame, header_eq]
    exact if_neg (Nat.not_lt.mpr enough)

/-- A frame once determined is not changed by later bytes; they follow the unread ones. -/
theorem flatFrame_append (found : flatFrame bytes = .ok (some (frame, rest))) (more : Bytes) :
    flatFrame (bytes ++ more) = .ok (some (frame, rest ++ more)) := by
  obtain ⟨header, header_eq, enough, rfl, rfl⟩ := flatFrame_eq_some_iff.mp found
  have header_le : header.headerLen ≤ bytes.length := by omega
  have payload_le : header.payloadLen ≤ (bytes.drop header.headerLen).length := by
    rw [length_drop]
    omega
  refine flatFrame_eq_some_iff.mpr ⟨header, ?_, ?_, ?_, ?_⟩
  · rw [flatHeader_append (by simp [header_eq]), header_eq]
  · rw [length_append]
    omega
  · rw [drop_append_of_le_length header_le, take_append_of_le_length payload_le]
  · rw [drop_append_of_le_length header_le, drop_append_of_le_length payload_le]

theorem flatFrame_length_lt (found : flatFrame bytes = .ok (some (frame, rest))) :
    rest.length < bytes.length := by
  obtain ⟨header, header_eq, enough, rfl, rfl⟩ := flatFrame_eq_some_iff.mp found
  obtain ⟨two_le, _⟩ := flatHeader_bounds header_eq
  simp only [length_drop]
  omega

/-- The decoder reads back the frame the encoder wrote. -/
theorem flatFrame_encodeFrame (frame : Frame) (lawful : ¬(frame.flags.command ∧ frame.flags.more))
    (bound : frame.payload.len ≤ isizeMax) (rest : Bytes) :
    flatFrame (encodeFrame frame ++ rest) =
      .ok (some (⟨frame.flags, .fromSlice frame.payload.asSlice⟩, rest)) := by
  have header_eq := flatHeader_frameHeader frame.flags lawful bound (frame.payload.asSlice ++ rest)
  have payload_length := frame.payload.length_asSlice
  rw [encodeFrame_eq, append_assoc]
  refine flatFrame_eq_some_iff.mpr ⟨_, header_eq, ?_, ?_, ?_⟩
  · simp only [length_append, length_frameHeader]
    omega
  · rw [drop_left' (length_frameHeader _ _), take_left' payload_length]
  · rw [drop_left' (length_frameHeader _ _), drop_left' payload_length]

end Omq
