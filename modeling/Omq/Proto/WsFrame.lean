import Omq.Proto.WsCodec

/-!
# WebSocket frames

The WebSocket header decoder over a flat byte string, `peekWsHeader_eq` identifies it with the one
the engine runs, and the frames a peer may send: any opcode, final or not, under any mask key.  The
decoder reads every such frame back.
-/

namespace Omq

open List

/-! ## The flat decoder -/

/-- The declared payload length and the bytes it ends at, when received. -/
def flatWsLength (bytes : Bytes) (length7 : Nat) : Except Error (Option (Nat × Nat)) :=
  if length7 = 126 then
    if bytes.length < 4 then .ok none
    else .ok (some (BigEndian.decode ((bytes.take 4).drop 2), 4))
  else if length7 = 127 then
    if bytes.length < 10 then .ok none
    else
      let length := BigEndian.decode ((bytes.take 10).drop 2)
      if 2 ^ 63 ≤ length then .error (.protocol "WS payload length MSB set")
      else .ok (some (length, 10))
  else .ok (some (length7, 2))

def flatWsHeader (bytes : Bytes) (peerRole : WsRole) : Except Error (Option WsFrameHeader) :=
  match bytes with
  | first :: second :: _ => do
      let (opcode, masked) ← parseWsFlags first second peerRole
      let fin : Bool := first &&& 0x80 ≠ 0
      match ← flatWsLength bytes (second &&& 0x7F).toNat with
      | none => .ok none
      | some (payloadLen, lengthEnd) =>
        checkWsControl opcode fin payloadLen
        let headerLen := lengthEnd + if masked then 4 else 0
        if bytes.length < headerLen then .ok none
        else .ok (some ⟨fin, opcode, payloadLen, headerLen, masked,
          if masked then (bytes.drop lengthEnd).take 4 else [0, 0, 0, 0]⟩)
  | _ => .ok none

theorem peekWsLength_eq (buf : ChunkedInputBuf) (length7 : Nat) :
    peekWsLength buf length7 = flatWsLength buf.bytes length7 := by
  unfold peekWsLength flatWsLength
  rw [buf.peekArray_eq 4, buf.peekArray_eq 10]
  split_ifs <;> rfl

theorem peekWsHeader_eq (buf : ChunkedInputBuf) (peerRole : WsRole) :
    peekWsHeader buf peerRole = flatWsHeader buf.bytes peerRole := by
  unfold peekWsHeader flatWsHeader
  rw [buf.peekArray_eq 2, buf.len_eq]
  match received : buf.bytes with
  | [] => rfl
  | [byte] => rfl
  | first :: second :: rest =>
    rw [← received]
    simp only [received, length_cons, take_succ_cons, take_zero, getD_cons_zero, getD_cons_succ,
      peekWsLength_eq, buf.peekArrayAt_eq, if_neg (show ¬rest.length + 1 + 1 < 2 by omega)]
    cases parseWsFlags first second peerRole with
    | error error => rfl
    | ok flags =>
      obtain ⟨opcode, masked⟩ := flags
      simp only [bind, Except.bind]
      cases flatWsLength (first :: second :: rest) (second &&& 0x7F).toNat with
      | error error => rfl
      | ok length =>
        rcases length with _ | ⟨payloadLen, lengthEnd⟩
        · rfl
        · simp only
          cases checkWsControl opcode (first &&& 0x80 ≠ 0) payloadLen with
          | error error => rfl
          | ok checked =>
            cases masked with
            | false => rfl
            | true =>
              by_cases short : rest.length + 1 + 1 < lengthEnd + 4 <;> simp [short]

variable {bytes : Bytes} {length7 payloadLen : Nat} {peerRole : WsRole}

theorem flatWsLength_append (determined : flatWsLength bytes length7 ≠ .ok none) (more : Bytes) :
    flatWsLength (bytes ++ more) length7 = flatWsLength bytes length7 := by
  unfold flatWsLength at determined ⊢
  split
  next medium =>
    rw [if_pos medium] at determined
    have enough : ¬bytes.length < 4 := fun short => determined (if_pos short)
    rw [if_neg enough, if_neg (by rw [length_append]; omega), take_append_of_le_length (by omega)]
  next not_medium =>
    rw [if_neg not_medium] at determined
    split
    next long =>
      rw [if_pos long] at determined
      have enough : ¬bytes.length < 10 := fun short => determined (if_pos short)
      rw [if_neg enough, if_neg (by rw [length_append]; omega), take_append_of_le_length (by omega)]
    · rfl

theorem flatWsLength_bounds {lengthEnd : Nat}
    (found : flatWsLength bytes length7 = .ok (some (payloadLen, lengthEnd))) : 2 ≤ lengthEnd := by
  unfold flatWsLength at found
  simp only at found
  split_ifs at found <;> cases found <;> decide

/-- A parsed header is received and has at least two bytes. -/
theorem flatWsHeader_bounds {header : WsFrameHeader}
    (found : flatWsHeader bytes peerRole = .ok (some header)) :
    2 ≤ header.headerLen ∧ header.headerLen ≤ bytes.length := by
  match bytes with
  | [] | [_] => cases found
  | first :: second :: rest =>
    simp only [flatWsHeader, exceptBind_eq_ok, Prod.exists] at found
    obtain ⟨opcode, masked, -, _ | ⟨payloadLen, lengthEnd⟩, measured, found⟩ := found
    · cases found
    · have lengthEnd_bound := flatWsLength_bounds measured
      obtain ⟨-, -, found⟩ := exceptBind_eq_ok.mp found
      by_cases short : (first :: second :: rest).length < lengthEnd + if masked then 4 else 0
      · rw [if_pos short] at found
        cases found
      · rw [if_neg short] at found
        cases found
        exact ⟨Nat.le_add_right_of_le lengthEnd_bound, Nat.not_lt.mp short⟩

/-- A header once determined, parsed or refused, is not changed by later bytes. -/
theorem flatWsHeader_append (determined : flatWsHeader bytes peerRole ≠ .ok none) (more : Bytes) :
    flatWsHeader (bytes ++ more) peerRole = flatWsHeader bytes peerRole := by
  match bytes with
  | [] => exact absurd rfl determined
  | [byte] => exact absurd rfl determined
  | first :: second :: rest =>
    have spelled : first :: second :: rest ++ more = first :: second :: (rest ++ more) := rfl
    rw [flatWsHeader] at determined
    rw [spelled, flatWsHeader, flatWsHeader, ← spelled]
    cases parsed : parseWsFlags first second peerRole with
    | error error => rfl
    | ok flags =>
      simp only [parsed, bind, Except.bind] at determined ⊢
      have measured : flatWsLength (first :: second :: rest) (second &&& 0x7F).toNat ≠
          .ok none := by
        intro unknown
        rw [unknown] at determined
        exact determined rfl
      rw [flatWsLength_append measured]
      cases length_eq : flatWsLength (first :: second :: rest) (second &&& 0x7F).toNat with
      | error error => rfl
      | ok length =>
        rw [length_eq] at determined
        rcases length with _ | ⟨payloadLen, lengthEnd⟩
        · exact absurd rfl determined
        · simp only at determined ⊢
          split
          · rfl
          next checked =>
            simp only [checked] at determined
            have whole : ¬(first :: second :: rest).length <
                lengthEnd + if flags.2 = true then 4 else 0 :=
              fun short => determined (if_pos short)
            rw [if_neg whole, if_neg (by rw [length_append]; omega)]
            cases masked : flags.2 with
            | false => rfl
            | true =>
              simp only [masked, if_true] at whole ⊢
              rw [drop_append_of_le_length (by omega),
                take_append_of_le_length (by rw [length_drop]; omega)]

/-! ## Masks -/

variable (data mask : Bytes)

/-- Words are masked byte by byte. -/
theorem xorWords_eq (key₀ key₁ key₂ key₃ : UInt8) :
    xorWords [key₀, key₁, key₂, key₃] data =
      data.mapIdx fun index byte => byte ^^^ [key₀, key₁, key₂, key₃].getD (index % 4) 0 := by
  fun_induction xorWords [key₀, key₁, key₂, key₃] data with
  | case1 byte₀ byte₁ byte₂ byte₃ rest ih =>
    have chunk := BigEndian.encode_decode [byte₃, byte₂, byte₁, byte₀]
    have key := BigEndian.encode_decode [key₃, key₂, key₁, key₀]
    have word : BigEndian.encodeLittle 4 (BigEndian.decodeLittle [byte₀, byte₁, byte₂, byte₃] ^^^
        BigEndian.decodeLittle [key₀, key₁, key₂, key₃]) =
          [byte₀ ^^^ key₀, byte₁ ^^^ key₁, byte₂ ^^^ key₂, byte₃ ^^^ key₃] := by
      rw [BigEndian.encodeLittle, BigEndian.encode_xor]
      exact congrArg reverse (congrArg₂ (zipWith (· ^^^ ·)) chunk key)
    rw [word, ih]
    simp [mapIdx_cons, Nat.add_assoc]
  | case2 => rfl

/-- The mask as it is rotated is read in its cycle. -/
theorem applyMaskOffset_eq (offset : Nat) :
    applyMaskOffset data mask offset =
      data.mapIdx fun index byte => byte ^^^ mask.getD ((index + offset) % 4) 0 := by
  unfold applyMaskOffset
  split
  next empty => rw [empty, mapIdx_nil]
  · have rotated (index : Nat) : ((List.range 4).map fun index =>
        mask.getD ((index + offset) % 2 ^ 64 % 4) 0).getD (index % 4) 0 =
          mask.getD ((index + offset) % 4) 0 := by
      have inside : index % 4 < 4 := Nat.mod_lt _ (by decide)
      simp [inside]
    simp only [← rotated]
    exact xorWords_eq data _ _ _ _

theorem getElem?_applyMaskOffset (offset index : Nat) :
    (applyMaskOffset data mask offset)[index]? =
      data[index]?.map (· ^^^ mask.getD ((offset + index) % 4) 0) := by
  rw [applyMaskOffset_eq, List.getElem?_mapIdx, Nat.add_comm]

@[simp]
theorem applyMaskOffset_applyMaskOffset (offset : Nat) :
    applyMaskOffset (applyMaskOffset data mask offset) mask offset = data := by
  refine ext_getElem? fun index => ?_
  simp only [getElem?_applyMaskOffset, Option.map_map, Function.comp_def, UInt8.xor_assoc,
    UInt8.xor_self, UInt8.xor_zero, Option.map_id']

@[simp]
theorem applyMask_applyMask : applyMask (applyMask data mask) mask = data :=
  applyMaskOffset_applyMaskOffset data mask 0

@[simp]
theorem length_applyMaskOffset (offset : Nat) :
    (applyMaskOffset data mask offset).length = data.length := by
  rw [applyMaskOffset_eq, length_mapIdx]

@[simp]
theorem length_applyMask : (applyMask data mask).length = data.length :=
  length_applyMaskOffset data mask 0

/-- Every byte meets the mask byte of its position, so masking twice restores the data, and pieces
may be masked one after the other. -/
theorem masked_by_position (later : Bytes) (offset : Nat) :
    (∀ index, (applyMaskOffset data mask offset)[index]? =
      data[index]?.map (· ^^^ mask.getD ((offset + index) % 4) 0)) ∧
    applyMaskOffset (applyMaskOffset data mask offset) mask offset = data ∧
    applyMaskOffset (data ++ later) mask offset =
      applyMaskOffset data mask offset ++ applyMaskOffset later mask (offset + data.length) := by
  refine ⟨getElem?_applyMaskOffset data mask offset, applyMaskOffset_applyMaskOffset .., ?_⟩
  rw [applyMaskOffset_eq, applyMaskOffset_eq, applyMaskOffset_eq, mapIdx_append]
  simp only [Nat.add_assoc, Nat.add_comm data.length]

/-- The flag byte takes the first mask byte, the body starts at the second. -/
theorem applyMask_cons (flag : UInt8) (body mask : Bytes) :
    applyMask (flag :: body) mask = (flag ^^^ mask.getD 0 0) :: applyMaskOffset body mask 1 := by
  simp [applyMask, applyMaskOffset_eq, mapIdx_cons]

/-! ## Frames -/

/-- A frame as a peer may send it. -/
structure WsFrame where
  fin : Bool
  opcode : WsOpcode
  payload : Bytes
  mask : Bytes
  mask_length : mask.length = 4

/-- The first byte of a header. -/
def wsFirst (fin : Bool) (opcode : WsOpcode) : UInt8 := (if fin then 0x80 else 0) ||| opcode.code

variable (role : WsRole)

def wsMaskFlag : UInt8 := if role = .client then 0x80 else 0

/-- The mask bit and the payload length in the shortest form. -/
def wsLength (payloadLen : Nat) : Bytes :=
  if payloadLen ≤ 125 then [wsMaskFlag role ||| UInt8.ofNat payloadLen]
  else if payloadLen ≤ 65535 then (wsMaskFlag role ||| 0x7E) :: BigEndian.encode 2 payloadLen
  else (wsMaskFlag role ||| 0x7F) :: BigEndian.encode 8 payloadLen

namespace WsFrame

variable (role : WsRole) (frame : WsFrame)

def head : Bytes :=
  wsFirst frame.fin frame.opcode :: wsLength role frame.payload.length ++
    if role = .client then frame.mask else []

/-- The payload bytes as the sender writes them. -/
def body : Bytes :=
  if role = .client then applyMask frame.payload frame.mask else frame.payload

def encode : Bytes := frame.head role ++ frame.body role

/-- The header a receiver parses. -/
def header : WsFrameHeader where
  fin := frame.fin
  opcode := frame.opcode
  payloadLen := frame.payload.length
  headerLen := (frame.head role).length
  masked := role = .client
  maskKey := if role = .client then frame.mask else [0, 0, 0, 0]

/-- The frame keeps the rules for control frames, and its length fits the header. -/
structure Legal (frame : WsFrame) : Prop where
  control : checkWsControl frame.opcode frame.fin frame.payload.length = .ok ()
  /-- The payload can be allocated. -/
  bounded : frame.payload.length ≤ isizeMax

@[simp]
theorem length_body : (frame.body role).length = frame.payload.length := by
  unfold body
  split <;> simp

end WsFrame

theorem wsFirst_fin (fin : Bool) (opcode : WsOpcode) :
    decide (wsFirst fin opcode &&& 0x80 ≠ 0) = fin := by
  cases fin <;> cases opcode <;> decide

theorem parseWsFlags_wsFirst (fin : Bool) (opcode : WsOpcode) (role : WsRole) {second : UInt8}
    (mask_bit : decide (second &&& 0x80 ≠ 0) = decide (role = .client)) :
    parseWsFlags (wsFirst fin opcode) second role = .ok (opcode, decide (role = .client)) := by
  have reserved : wsFirst fin opcode &&& 0x70 = 0 := by cases fin <;> cases opcode <;> decide
  have code : WsOpcode.ofCode (wsFirst fin opcode &&& 0x0F) = some opcode := by
    cases fin <;> cases opcode <;> decide
  unfold parseWsFlags
  simp only [reserved, code, mask_bit, ne_eq, not_true_eq_false, if_false]
  cases role <;> rfl

theorem wsMaskFlag_short :
    ∀ length < 126,
      decide ((wsMaskFlag role ||| UInt8.ofNat length) &&& 0x80 ≠ 0) = decide (role = .client) ∧
        ((wsMaskFlag role ||| UInt8.ofNat length) &&& 0x7F).toNat = length := by
  cases role <;> decide +kernel

/-- The length field starts with the mask bit and is read back, whatever follows it. -/
theorem wsLength_spec (bound : payloadLen ≤ isizeMax) :
    ∃ second more, wsLength role payloadLen = second :: more ∧
      decide (second &&& 0x80 ≠ 0) = decide (role = .client) ∧
      ∀ (first : UInt8) (tail : Bytes),
        flatWsLength (first :: second :: (more ++ tail)) (second &&& 0x7F).toNat =
          .ok (some (payloadLen, more.length + 2)) := by
  unfold wsLength
  split_ifs with short medium
  · obtain ⟨mask_bit, length_eq⟩ := wsMaskFlag_short role payloadLen (by omega)
    refine ⟨_, [], rfl, mask_bit, fun first tail => ?_⟩
    rw [length_eq, flatWsLength, if_neg (by omega), if_neg (by omega)]
    rfl
  · have length_eq : ((wsMaskFlag role ||| 0x7E) &&& 0x7F).toNat = 126 := by
      cases role <;> decide
    have field_length : (BigEndian.encode 2 payloadLen).length = 2 := by simp
    refine ⟨_, _, rfl, by cases role <;> decide, fun first tail => ?_⟩
    rw [length_eq, flatWsLength, if_pos rfl,
      if_neg (by simp only [length_cons, length_append]; omega)]
    have value_eq : BigEndian.decode (BigEndian.encode 2 payloadLen) = payloadLen :=
      BigEndian.decode_encode_of_lt (by omega)
    simp only [take_succ_cons, drop_succ_cons, drop_zero,
      take_left' field_length, value_eq, field_length]
  · have length_eq : ((wsMaskFlag role ||| 0x7F) &&& 0x7F).toNat = 127 := by
      cases role <;> decide
    have field_length : (BigEndian.encode 8 payloadLen).length = 8 := by simp
    refine ⟨_, _, rfl, by cases role <;> decide, fun first tail => ?_⟩
    rw [length_eq, flatWsLength, if_neg (by decide), if_pos rfl,
      if_neg (by simp only [length_cons, length_append]; omega)]
    have value_eq : BigEndian.decode (BigEndian.encode 8 payloadLen) = payloadLen :=
      BigEndian.decode_encode_of_lt (bound.trans_lt isizeMax_lt)
    have sign : ¬2 ^ 63 ≤ payloadLen := by
      simp only [isizeMax] at bound
      omega
    simp only [take_succ_cons, drop_succ_cons, drop_zero,
      take_left' field_length, value_eq, field_length, if_neg sign]

/-- The decoder reads the header of a legal frame back, whatever follows it. -/
theorem flatWsHeader_encode {frame : WsFrame} (legal : frame.Legal) (role : WsRole) (rest : Bytes) :
    flatWsHeader (frame.encode role ++ rest) role = .ok (some (frame.header role)) := by
  obtain ⟨second, more, length_eq, mask_bit, measured⟩ := wsLength_spec role legal.bounded
  have spelled : frame.encode role ++ rest = wsFirst frame.fin frame.opcode :: second ::
      (more ++ ((if role = .client then frame.mask else []) ++ (frame.body role ++ rest))) := by
    simp [WsFrame.encode, WsFrame.head, length_eq]
  have head_length : (frame.head role).length =
      more.length + 2 + if decide (role = .client) = true then 4 else 0 := by
    unfold WsFrame.head
    rw [length_eq]
    cases role <;> simp [frame.mask_length]
  have whole : ¬(frame.encode role ++ rest).length < (frame.head role).length := by
    simp only [WsFrame.encode, length_append]
    omega
  rw [spelled, flatWsHeader, parseWsFlags_wsFirst _ _ _ mask_bit]
  simp only [bind, Except.bind, measured, wsFirst_fin, legal.control]
  rw [← spelled, ← head_length, if_neg whole]
  unfold WsFrame.header
  cases role with
  | server => rfl
  | client =>
    have key : ((frame.encode .client ++ rest).drop (more.length + 2)).take 4 = frame.mask := by
      rw [spelled]
      simp only [if_true, drop_succ_cons, drop_left' rfl, take_left' frame.mask_length]
    simp [key]

/-! ## Sent frames -/

variable (opcode : WsOpcode)

/-- A frame as this side sends it: final, with the next random bytes as mask key. -/
def WsFrame.sent (payload : Bytes) (env : Environment) : WsFrame :=
  ⟨true, opcode, payload, (env.fillBytes 4).1, Environment.length_fillBytes env 4⟩

/-- The encoder writes the header of a sent frame and returns the mask key a client applies. -/
theorem encodeWsHeader_eq (payload : Bytes) (role : WsRole) (env : Environment) :
    encodeWsHeader opcode payload.length role env =
      ((WsFrame.sent opcode payload env).head role,
        match role with
        | .client => (some (env.fillBytes 4).1, (env.fillBytes 4).2)
        | .server => (none, env)) := by
  cases role <;> simp [encodeWsHeader, WsFrame.head, WsFrame.sent, wsFirst, wsLength, wsMaskFlag]

theorem encodeWsControl_eq (payload : Bytes) (role : WsRole) (env : Environment) :
    (encodeWsControl opcode payload role env).1 =
      (WsFrame.sent opcode payload env).encode role := by
  unfold encodeWsControl
  rw [encodeWsHeader_eq]
  cases role <;> simp [WsFrame.encode, WsFrame.body, WsFrame.sent]

end Omq
