import Omq.Proto.Frame
import Omq.Proto.Mechanism.Common

/-!
# WebSocket framing

The subset of WebSocket framing which ZWS needs, and the one-byte ZWS frame flag.
-/

namespace Omq

/-- Which side of a WebSocket connection. -/
inductive WsRole
  | client
  | server
  deriving DecidableEq

inductive WsOpcode
  | continuation
  | binary
  | close
  | ping
  | pong
  deriving DecidableEq

namespace WsOpcode

def code : WsOpcode → UInt8
  | .continuation => 0x00
  | .binary => 0x02
  | .close => 0x08
  | .ping => 0x09
  | .pong => 0x0A

def ofCode (code : UInt8) : Option WsOpcode :=
  if code = 0x00 then some .continuation
  else if code = 0x02 then some .binary
  else if code = 0x08 then some .close
  else if code = 0x09 then some .ping
  else if code = 0x0A then some .pong
  else none

def isControl : WsOpcode → Bool
  | .continuation => false
  | .binary => false
  | .close => true
  | .ping => true
  | .pong => true

end WsOpcode

structure WsFrameHeader where
  /-- Final fragment of its message. -/
  fin : Bool
  opcode : WsOpcode
  payloadLen : Nat
  /-- Header length with extended length and mask key. -/
  headerLen : Nat
  masked : Bool
  /-- Mask key, zero when unmasked. -/
  maskKey : Bytes

/-- Checks on the first two header bytes: the opcode and whether the payload is masked. -/
def parseWsFlags (first second : UInt8) (peerRole : WsRole) : Except Error (WsOpcode × Bool) :=
  if first &&& 0x70 ≠ 0 then
    .error (.protocol "WS RSV bits set but no extensions negotiated")
  else
    match WsOpcode.ofCode (first &&& 0x0F) with
    | none => .error (.protocol ("unsupported WS opcode: 0x" ++ hexByte (first &&& 0x0F)))
    | some opcode =>
      let masked : Bool := second &&& 0x80 ≠ 0
      match peerRole, masked with
      | .client, false => .error (.protocol "client WS frame must be masked")
      | .server, true => .error (.protocol "server WS frame must not be masked")
      | _, masked => .ok (opcode, masked)

def checkWsControl (opcode : WsOpcode) (fin : Bool) (payloadLen : Nat) : Except Error Unit :=
  if opcode.isControl ∧ 125 < payloadLen then
    .error (.protocol "WS control frame payload > 125 bytes")
  else if opcode.isControl ∧ ¬fin then .error (.protocol "fragmented WS control frame")
  else if opcode = .close ∧ payloadLen = 1 then
    .error (.protocol "WS close frame has one-byte payload")
  else .ok ()

/-- The declared payload length and the bytes it ends at, when buffered. -/
def peekWsLength (buf : ChunkedInputBuf) (length7 : Nat) : Except Error (Option (Nat × Nat)) :=
  if length7 = 126 then
    match buf.peekArray 4 with
    | none => .ok none
    | some header => .ok (some (BigEndian.decode (header.drop 2), 4))
  else if length7 = 127 then
    match buf.peekArray 10 with
    | none => .ok none
    | some header =>
      let length := BigEndian.decode (header.drop 2)
      if 2 ^ 63 ≤ length then .error (.protocol "WS payload length MSB set")
      else .ok (some (length, 10))
  else .ok (some (length7, 2))

def peekWsHeader (buf : ChunkedInputBuf) (peerRole : WsRole) :
    Except Error (Option WsFrameHeader) :=
  match buf.peekArray 2 with
  | none => .ok none
  | some firstTwo => do
      let first := firstTwo.getD 0 0
      let second := firstTwo.getD 1 0
      let (opcode, masked) ← parseWsFlags first second peerRole
      let fin : Bool := first &&& 0x80 ≠ 0
      match ← peekWsLength buf (second &&& 0x7F).toNat with
      | none => .ok none
      | some (payloadLen, lengthEnd) =>
        checkWsControl opcode fin payloadLen
        let headerLen := lengthEnd + if masked then 4 else 0
        if buf.len < headerLen then .ok none
        else if masked then
          match buf.peekArrayAt 4 lengthEnd with
          | none => .ok none
          | some maskKey => .ok (some ⟨fin, opcode, payloadLen, headerLen, masked, maskKey⟩)
        else .ok (some ⟨fin, opcode, payloadLen, headerLen, masked, [0, 0, 0, 0]⟩)

/-- XOR whole words of the data with a mask, and then the bytes which remain. -/
def xorWords (mask : Bytes) : Bytes → Bytes
  | byte₀ :: byte₁ :: byte₂ :: byte₃ :: rest =>
    -- The order of the bytes in a word makes no difference.
    BigEndian.encodeLittle 4 (BigEndian.decodeLittle [byte₀, byte₁, byte₂, byte₃] ^^^
      BigEndian.decodeLittle mask) ++ xorWords mask rest
  | remainder => remainder.mapIdx fun index byte => byte ^^^ mask.getD (index % 4) 0

/-- XOR a payload with the mask, starting inside the mask cycle. -/
def applyMaskOffset (data mask : Bytes) (offset : Nat) : Bytes :=
  if data = [] then []
  else xorWords ((List.range 4).map fun index => mask.getD ((index + offset) % 2 ^ 64 % 4) 0) data

def applyMask (data mask : Bytes) : Bytes := applyMaskOffset data mask 0

/-- A frame header for sending, with the mask key a client must apply. -/
def encodeWsHeader (opcode : WsOpcode) (payloadLen : Nat) (role : WsRole) (env : Environment) :
    Bytes × Option Bytes × Environment :=
  let maskFlag : UInt8 := if role = .client then 0x80 else 0
  let length :=
    if payloadLen ≤ 125 then [maskFlag ||| UInt8.ofNat payloadLen]
    else if payloadLen ≤ 65535 then (maskFlag ||| 0x7E) :: BigEndian.encode 2 payloadLen
    else (maskFlag ||| 0x7F) :: BigEndian.encode 8 payloadLen
  let header := (0x80 ||| opcode.code) :: length
  match role with
  | .client =>
    let (mask, env) := env.fillBytes 4
    (header ++ mask, some mask, env)
  | .server => (header, none, env)

/-- A complete control frame. -/
def encodeWsControl (opcode : WsOpcode) (payload : Bytes) (role : WsRole) (env : Environment) :
    Bytes × Environment :=
  match encodeWsHeader opcode payload.length role env with
  | (header, some mask, env) => (header ++ applyMask payload mask, env)
  | (header, none, env) => (header ++ payload, env)

def flagsToZws (flags : FrameFlags) : UInt8 :=
  if flags.command then 0x02 else if flags.more then 0x01 else 0x00

def zwsToFlags (flag : UInt8) : Except Error FrameFlags :=
  if flag = 0x00 then .ok .last
  else if flag = 0x01 then .ok .moreData
  else if flag = 0x02 then .ok .commandFrame
  else .error (.protocol ("invalid ZWS flag byte: 0x" ++ hexByte flag))

end Omq
