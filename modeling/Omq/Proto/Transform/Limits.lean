import Omq.Proto.Transform.Codec

/-!
# Limits of the decoders

Whatever a peer sends, a decoder returns no message above its size limit and keeps the first
dictionary it was shipped.  The budget is spent part by part, on declared sizes which the
decompressed parts then have to meet.
-/

namespace Omq

open List Message CompressionPrimitives

/-- A part of `used` bytes was taken from the budget. -/
def Spends (budget rest : Option Nat) (used : Nat) : Prop :=
  ∀ left ∈ budget, ∃ remaining ∈ rest, used + remaining ≤ left

variable {budget rest : Option Nat}

theorem spends_of_takeBudget {take : Nat} (taken : takeBudget budget take = .ok rest) :
    Spends budget rest take := by
  revert taken
  fun_cases takeBudget budget take <;> rintro ⟨⟩ <;> rintro _ ⟨⟩
  exact ⟨_, rfl, by omega⟩

theorem spends_fromBytes {plain : Bytes} (taken : takeBudget budget plain.length = .ok rest) :
    Spends budget rest (Payload.fromBytes plain).asSlice.length := by
  rw [Payload.asSlice_fromBytes]
  exact spends_of_takeBudget taken

theorem spends_plain {bytes : Bytes} {payload : Payload}
    (decoded : (do
      let budget ← takeBudget budget (bytes.length - 4)
      return (Payload.fromBytes (bytes.drop 4), budget)) = .ok (payload, rest)) :
    Spends budget rest payload.asSlice.length := by
  obtain ⟨_, taken, decoded⟩ := exceptBind_eq_ok.mp decoded
  cases decoded
  rw [← length_drop] at taken
  exact spends_fromBytes taken

theorem byteLen_pushPartPayload (out : Message) (payload : Payload) :
    (out.pushPartPayload payload).byteLen = out.byteLen + payload.asSlice.length := by
  rw [← sum_length_parts, parts_pushPartPayload, ← sum_length_parts]
  simp

namespace PartFormat

variable {σ : Type} {format : PartFormat σ} {decoder after : σ} {result : Option Message}
  (spends : ∀ bytes budget payload rest, format.decodePart decoder bytes budget =
  .ok (payload, rest) → Spends budget rest payload.asSlice.length)

include spends

/-- The parts are within the budget, or the first one is a dictionary. -/
theorem decodeParts_cases {multipart : Bool} {index : Nat} {parts : List Bytes} {out : Message}
    (decoded : format.decodeParts decoder multipart index parts budget out = .ok (after, result)) :
    (after = decoder ∧ ∃ message, result = some message ∧
      ∀ left ∈ budget, message.byteLen ≤ out.byteLen + left) ∨
    result = none ∧ multipart = false ∧ index = 0 ∧
      ∃ bytes rest, parts = bytes :: rest ∧ format.install decoder bytes = .ok after := by
  revert decoded
  fun_induction format.decodeParts decoder multipart index parts budget out <;> intro decoded
  case case7 budget out _ _ payload rest decoded_part ih =>
    obtain ⟨same, message, rfl, within⟩ | ⟨_, _, later, _⟩ := ih decoded
    · refine .inl ⟨same, message, rfl, fun left member => ?_⟩
      obtain ⟨remaining, member, spent⟩ := spends _ _ _ _ decoded_part left member
      have message_le := within remaining member
      rw [byteLen_pushPartPayload] at message_le
      omega
    · cases later
  all_goals cases decoded
  next out => exact .inl ⟨rfl, out, rfl, fun left _ => Nat.le_add_right _ _⟩
  next bytes rest _ _ _ _ alone installed =>
    obtain ⟨single, first⟩ := not_or.mp alone
    exact .inr ⟨rfl, by simpa using single, not_not.mp first, bytes, rest, rfl, installed⟩

theorem decode_cases {wire : Message}
    (decoded : format.decode decoder budget wire = .ok (after, result)) :
    (after = decoder ∧ ∃ message, result = some message ∧ ∀ left ∈ budget, message.byteLen ≤ left) ∨
    result = none ∧ wire.partsPayload.length = 1 ∧
      ∃ bytes, format.install decoder bytes = .ok after := by
  obtain ⟨same, message, rfl, within⟩ | ⟨rfl, single, _, bytes, rest, parts_eq, installed⟩ :=
    decodeParts_cases spends decoded
  · exact .inl ⟨same, message, rfl, by simpa [byteLen] using within⟩
  · have parts_length := congrArg length parts_eq
    rw [length_map, length_cons] at parts_length
    exact .inr ⟨rfl, by simp at single; omega, bytes, installed⟩

end PartFormat

namespace Lz4Decoder

variable [CompressionPrimitives] {decoder : Lz4Decoder}

theorem length_decodeBlocks {remaining : Nat} {body plain : Bytes}
    (decoded : decoder.decodeBlocks remaining body = .ok plain) : plain.length = remaining := by
  revert decoded
  fun_induction decoder.decodeBlocks remaining body generalizing plain <;> rintro ⟨⟩
  · rfl
  next whole _ later_eq ih =>
    rw [length_append, not_not.mp whole, ih later_eq]
    omega

theorem spends_decodePart (bytes : Bytes) (budget : Option Nat) (payload : Payload)
    (rest : Option Nat) (decoded : decoder.decodePart bytes budget = .ok (payload, rest)) :
    Spends budget rest payload.asSlice.length := by
  unfold decodePart at decoded
  dsimp only at decoded
  split_ifs at decoded
  · exact spends_plain decoded
  · simp only [decodeLz4b, exceptGuard_eq_ok, exceptBind_eq_ok] at decoded
    obtain ⟨_, _, _, _, _, taken, plain, _, whole, decoded⟩ := decoded
    cases decoded
    rw [← not_not.mp whole] at taken
    exact spends_fromBytes taken
  · simp only [decodeLz4m, exceptGuard_eq_ok, exceptBind_eq_ok] at decoded
    obtain ⟨_, _, _, _, taken, _, plain, blocks, decoded⟩ := decoded
    cases decoded
    rw [← length_decodeBlocks blocks] at taken
    exact spends_fromBytes taken

end Lz4Decoder

theorem ZstdDecoder.spends_decodePart [CompressionPrimitives] {decoder : ZstdDecoder}
    (bytes : Bytes) (budget : Option Nat) (payload : Payload) (rest : Option Nat)
    (decoded : decoder.decodePart bytes budget = .ok (payload, rest)) :
    Spends budget rest payload.asSlice.length := by
  unfold decodePart at decoded
  dsimp only at decoded
  split_ifs at decoded
  · exact spends_plain decoded
  · obtain ⟨_ | size, _, decoded⟩ := exceptBind_eq_ok.mp decoded
    · cases decoded
    · simp only [exceptGuard_eq_ok, exceptBind_eq_ok] at decoded
      obtain ⟨_, _, _, taken, plain, _, whole, decoded⟩ := decoded
      cases decoded
      rw [← not_not.mp whole] at taken
      exact spends_fromBytes taken

namespace MessageDecoder

def dict : MessageDecoder → Option Bytes
  | .lz4 decoder => decoder.decompressor
  | .zstd decoder => decoder.recvDict

/-- The limits on messages and on shipped dictionaries. -/
def limits : MessageDecoder → Option Nat × Nat
  | .lz4 decoder => (decoder.maxMessageSize, decoder.maxRecvDictSize)
  | .zstd decoder => (decoder.maxMessageSize, decoder.maxRecvDictSize)

variable [CompressionPrimitives]

/-- The decoder after a wire message, accepted or refused. -/
def receive (decoder : MessageDecoder) (wire : Message) : MessageDecoder :=
  match decoder.decode wire with
  | .ok (after, _) => after
  | .error _ => decoder

/-- What a message which is accepted does: it is passed on, or its dictionary is installed. -/
theorem decode_cases {decoder after : MessageDecoder} {wire : Message} {result : Option Message}
    (decoded : decoder.decode wire = .ok (after, result)) :
    after.limits = decoder.limits ∧
      ((after.dict = decoder.dict ∧ ∃ message, result = some message ∧
        ∀ max ∈ decoder.limits.1, message.byteLen ≤ max) ∨
      result = none ∧ decoder.dict = none ∧ wire.partsPayload.length = 1 ∧
        ∃ dict ∈ after.dict, dict.length ≤ decoder.limits.2) := by
  cases decoder with
  | lz4 decoder =>
    obtain ⟨⟨after, result⟩, inner, same⟩ := map_eq_ok decoded
    cases same
    change Lz4Decoder.format.decode decoder decoder.maxMessageSize wire = _ at inner
    obtain ⟨rfl, passed⟩ | ⟨rfl, single, bytes, installed⟩ :=
      PartFormat.decode_cases Lz4Decoder.spends_decodePart inner
    · exact ⟨rfl, .inl ⟨rfl, passed⟩⟩
    · simp only [Lz4Decoder.format, Lz4Decoder.installDict, exceptGuard_eq_ok, exceptBind_eq_ok]
        at installed
      obtain ⟨fresh, _, valid, installed⟩ := installed
      obtain ⟨_, short⟩ := (validateDict_eq_ok_iff _).mp valid
      cases installed
      exact ⟨rfl, .inr ⟨rfl, Option.not_isSome_iff_eq_none.mp fresh, single, _, rfl, short⟩⟩
  | zstd decoder =>
    obtain ⟨⟨after, result⟩, inner, same⟩ := map_eq_ok decoded
    cases same
    change ZstdDecoder.format.decode decoder decoder.maxMessageSize wire = _ at inner
    obtain ⟨rfl, passed⟩ | ⟨rfl, single, bytes, installed⟩ :=
      PartFormat.decode_cases ZstdDecoder.spends_decodePart inner
    · exact ⟨rfl, .inl ⟨rfl, passed⟩⟩
    · simp only [ZstdDecoder.format, ZstdDecoder.installDict, exceptGuard_eq_ok, exceptBind_eq_ok]
        at installed
      obtain ⟨fresh, _, valid, _, _, installed⟩ := installed
      obtain ⟨_, short⟩ := (validateDict_eq_ok_iff _).mp valid
      cases installed
      exact ⟨rfl, .inr ⟨rfl, Option.not_isSome_iff_eq_none.mp fresh, single, _, rfl, short⟩⟩

/-- The dictionary is as it was, or it is the first one. -/
theorem receive_cases (decoder : MessageDecoder) (wire : Message) :
    (decoder.receive wire).limits = decoder.limits ∧
      ((decoder.receive wire).dict = decoder.dict ∨
      decoder.dict = none ∧ wire.partsPayload.length = 1 ∧
        ∃ dict ∈ (decoder.receive wire).dict, dict.length ≤ decoder.limits.2) := by
  unfold receive
  split
  next after result decoded =>
    obtain ⟨kept, ⟨same, _⟩ | ⟨_, installed⟩⟩ := decode_cases decoded
    · exact ⟨kept, .inl same⟩
    · exact ⟨kept, .inr installed⟩
  · exact ⟨rfl, .inl rfl⟩

theorem foldl_receive_keeps (wires : List Message) (decoder : MessageDecoder) :
    (wires.foldl receive decoder).limits = decoder.limits ∧
      ∀ dict ∈ decoder.dict, dict ∈ (wires.foldl receive decoder).dict := by
  refine foldlRecOn wires receive (motive := fun before => before.limits = decoder.limits ∧
    ∀ dict ∈ decoder.dict, dict ∈ before.dict) ⟨rfl, fun _ => id⟩ ?_
  rintro before ⟨limits_eq, held⟩ wire _
  obtain ⟨kept, same | ⟨none_held, _⟩⟩ := before.receive_cases wire
  · exact ⟨kept.trans limits_eq, same ▸ held⟩
  · exact ⟨kept.trans limits_eq, fun dict member => by simpa [none_held] using held dict member⟩

/-- After any messages a dictionary which is held is still held, a message which is returned is
within the limit, and a dictionary is installed only where there was none, by a message of one part
within the limit.  A message which is refused changes no dictionary. -/
theorem limits_hold (decoder : MessageDecoder) (wires : List Message) (wire : Message) :
    let before := wires.foldl receive decoder
    (∀ dict ∈ decoder.dict, dict ∈ before.dict) ∧
    (∀ after message, before.decode wire = .ok (after, some message) →
      ∀ max ∈ decoder.limits.1, message.byteLen ≤ max) ∧
    ((before.receive wire).dict ≠ before.dict → before.dict = none ∧
      wire.partsPayload.length = 1 ∧
        ∃ dict ∈ (before.receive wire).dict, dict.length ≤ decoder.limits.2) ∧
    ∀ error, before.decode wire = .error error → (before.receive wire).dict = before.dict := by
  intro before
  obtain ⟨limits_eq, held⟩ := foldl_receive_keeps wires decoder
  rw [← limits_eq]
  refine ⟨held, fun after message decoded => ?_, ?_, fun error refused => ?_⟩
  · obtain ⟨_, ⟨_, _, same, within⟩ | ⟨none_eq, _⟩⟩ := decode_cases decoded
    · cases same
      exact within
    · cases none_eq
  · exact fun changed => (before.receive_cases wire).2.resolve_left changed
  · rw [receive, refused]

end MessageDecoder

/-- A plain part of three bytes is passed on under a limit of three. -/
theorem plain_part_within :
    let _ := CompressionPrimitives.storing
    let decoder := MessageDecoder.lz4 (Lz4Decoder.new.withMaxMessageSize (some 3))
    ∃ message, decoder.decode (.single (.fromBytes [0, 0, 0, 0, 7, 8, 9])) =
      .ok (decoder, some message) ∧ message.byteLen ≤ 3 := by
  intro _ decoder
  refine ⟨_, rfl, ?_⟩
  obtain ⟨_, within, _⟩ := decoder.limits_hold [] (.single (.fromBytes [0, 0, 0, 0, 7, 8, 9]))
  exact within _ _ rfl 3 rfl

end Omq
