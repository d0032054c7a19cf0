import Omq.Proto.Message
import Omq.Proto.SocketType
import Omq.Proto.Text

/-!
# ZMTP commands

The payload of a command frame is a length-prefixed name and a body.  READY carries a property
list, whose decoder is the recursive part of this module.
-/

namespace Omq

open List

/-- Largest context inside a PING or PONG body. -/
def pingContextMax : Nat := 16

structure PeerProperties where
  socketType : Option SocketType
  identity : Option Bytes
  /-- All other properties, in order. -/
  other : List (Bytes × Bytes)
  deriving DecidableEq

namespace PeerProperties

def new : PeerProperties := ⟨none, none, []⟩

def withSocketType (props : PeerProperties) (socketType : SocketType) : PeerProperties :=
  { props with socketType := some socketType }

/-- Declare an identity; the empty identity is not declared. -/
def withIdentity (props : PeerProperties) (identity : Bytes) : PeerProperties :=
  if identity = [] then props else { props with identity := some identity }

end PeerProperties

/-- A parsed ZMTP command. -/
inductive Command
  | ready (props : PeerProperties)
  | subscribe (topic : Bytes)
  | cancel (topic : Bytes)
  | ping (ttlDeciseconds : UInt16) (context : Bytes)
  | pong (context : Bytes)
  | error (reason : Bytes)
  | join (group : Bytes)
  | leave (group : Bytes)
  | unknown (name body : Bytes)
  deriving DecidableEq

namespace Command

def writeName (name : Bytes) : Bytes := UInt8.ofNat name.length :: name

/-- One property: length-prefixed name, then a value behind a four-byte length. -/
def writeProperty (name value : Bytes) : Bytes :=
  UInt8.ofNat name.length :: name ++ BigEndian.encode 4 value.length ++ value

variable (props : PeerProperties)

/-- The property list of READY. -/
def encodeProperties : Bytes :=
  (match props.socketType with
    | some socketType => writeProperty (ascii "Socket-Type") socketType.asStr
    | none => []) ++
  (match props.identity with
    | some identity => writeProperty (ascii "Identity") identity
    | none => []) ++
  (props.other.map fun (name, value) => writeProperty name value).flatten

def encode : Command → Bytes
  | .ready props => writeName (ascii "READY") ++ encodeProperties props
  | .subscribe topic => writeName (ascii "SUBSCRIBE") ++ topic
  | .cancel topic => writeName (ascii "CANCEL") ++ topic
  | .ping ttl context =>
    writeName (ascii "PING") ++ BigEndian.encode 2 ttl.toNat ++ context
  | .pong context => writeName (ascii "PONG") ++ context
  | .error reason =>
    let text := reason.take 255
    writeName (ascii "ERROR") ++ UInt8.ofNat text.length :: text
  | .join group => writeName (ascii "JOIN") ++ group
  | .leave group => writeName (ascii "LEAVE") ++ group
  | .unknown name body => writeName name ++ body

def isPropertyByte (byte : UInt8) : Bool :=
  (48 ≤ byte ∧ byte ≤ 57) ∨ (65 ≤ byte ∧ byte ≤ 90) ∨ (97 ≤ byte ∧ byte ≤ 122) ∨
    byte = 45 ∨ byte = 95 ∨ byte = 46 ∨ byte = 43

def toAsciiLower (byte : UInt8) : UInt8 := if 65 ≤ byte ∧ byte ≤ 90 then byte + 32 else byte

def eqIgnoreAsciiCase (left right : Bytes) : Bool := left.map toAsciiLower = right.map toAsciiLower

/-- Add one decoded property to those already decoded. -/
def addProperty (name value : Bytes) : Except Error PeerProperties :=
  if eqIgnoreAsciiCase name (ascii "Socket-Type") then
    if props.socketType.isSome then .error (.protocol "duplicate Socket-Type property")
    else
      match SocketType.fromWire value with
      | none => .error (.protocol ("unknown peer socket type: " ++ debugText value))
      | some socketType => .ok { props with socketType := some socketType }
  else if eqIgnoreAsciiCase name (ascii "Identity") then
    if props.identity.isSome then .error (.protocol "duplicate Identity property")
    else if value = [] then .ok props
    else .ok { props with identity := some value }
  else .ok { props with other := props.other ++ [(name, value)] }

/-- The property loop; every turn consumes at least six bytes, so the fuel is the body length. -/
def decodePropertiesLoop : (fuel : Nat) → PeerProperties → Bytes → Except Error PeerProperties
  | _, props, [] => .ok props
  | 0, props, _ => .ok props
  | fuel + 1, props, first :: rest =>
    let nameLen := first.toNat
    if nameLen = 0 then .error (.protocol "READY property name is empty")
    else if rest.length < nameLen + 4 then .error (.protocol "READY property truncated")
    else
      let name := rest.take nameLen
      if !name.all isPropertyByte then
        .error (.protocol "READY property name contains invalid characters")
      else
        let valueLen := BigEndian.decode ((rest.drop nameLen).take 4)
        let tail := rest.drop (nameLen + 4)
        if tail.length < valueLen then .error (.protocol "READY property value truncated")
        else do
          let props ← addProperty props name (tail.take valueLen)
          decodePropertiesLoop fuel props (tail.drop valueLen)

def decodeProperties (body : Bytes) : Except Error PeerProperties :=
  decodePropertiesLoop body.length .new body

def decodePing (body : Bytes) : Except Error Command :=
  if body.length < 2 then .error (.protocol "PING body missing TTL")
  else
    let context := body.drop 2
    if pingContextMax < context.length then .error (.protocol "PING context too long")
    else .ok (.ping (UInt16.ofNat (BigEndian.decode (body.take 2))) context)

def decodeError : Bytes → Except Error Command
  | [] => .error (.protocol "ERROR body missing reason length")
  | first :: rest =>
    if rest.length < first.toNat then .error (.protocol "ERROR reason truncated")
    else
      let reason := rest.take first.toNat
      if isUtf8 reason then .ok (.error reason)
      else .error (.protocol "ERROR reason not UTF-8")

def decodeBody (name body : Bytes) : Except Error Command :=
  if name = ascii "READY" then Command.ready <$> decodeProperties body
  else if name = ascii "SUBSCRIBE" then .ok (.subscribe body)
  else if name = ascii "CANCEL" then .ok (.cancel body)
  else if name = ascii "PING" then decodePing body
  else if name = ascii "PONG" then
    if pingContextMax < body.length then .error (.protocol "PONG context too long")
    else .ok (.pong body)
  else if name = ascii "ERROR" then decodeError body
  else if name = ascii "JOIN" then .ok (.join body)
  else if name = ascii "LEAVE" then .ok (.leave body)
  else .ok (.unknown name body)

def decode : Bytes → Except Error Command
  | [] => .error (.protocol "empty command frame")
  | first :: rest =>
    if rest.length < first.toNat then .error (.protocol "command truncated in name")
    else decodeBody (rest.take first.toNat) (rest.drop first.toNat)

/-! ## Property lists -/

/-- The properties in the order in which they are written. -/
def entries : List (Bytes × Bytes) :=
  (props.socketType.map fun socketType => (ascii "Socket-Type", socketType.asStr)).toList ++
    (props.identity.map fun identity => (ascii "Identity", identity)).toList ++ props.other

def writeProperties (properties : List (Bytes × Bytes)) : Bytes :=
  (properties.map fun (name, value) => writeProperty name value).flatten

theorem encodeProperties_eq : encodeProperties props = writeProperties (entries props) := by
  rcases props with ⟨_ | _, _ | _, other⟩ <;> simp [encodeProperties, writeProperties, entries]

/-- The assertions of the writer. -/
def Writable (property : Bytes × Bytes) : Prop :=
  property.1.length < 256 ∧ property.2.length < 256 ^ 4

/-- What the loop does with a complete property. -/
def readProperty (property : Bytes × Bytes) : Except Error PeerProperties :=
  if property.1 = [] then .error (.protocol "READY property name is empty")
  else if !property.1.all isPropertyByte then
    .error (.protocol "READY property name contains invalid characters")
  else addProperty props property.1 property.2

variable {properties : List (Bytes × Bytes)} {property : Bytes × Bytes}

theorem decodePropertiesLoop_writeProperty (fuel : Nat) (props : PeerProperties) (rest : Bytes)
    (writable : Writable property) :
    decodePropertiesLoop (fuel + 1) props (writeProperty property.1 property.2 ++ rest) =
      readProperty props property >>= fun next => decodePropertiesLoop fuel next rest := by
  obtain ⟨name, value⟩ := property
  obtain ⟨short, bound⟩ := writable
  have name_len : (UInt8.ofNat name.length).toNat = name.length := by
    simpa using Nat.mod_eq_of_lt short
  have flat : writeProperty name value ++ rest = UInt8.ofNat name.length ::
      (name ++ (BigEndian.encode 4 value.length ++ (value ++ rest))) := by
    simp [writeProperty]
  have value_len : BigEndian.decode (((name ++ (BigEndian.encode 4 value.length ++
      (value ++ rest))).drop name.length).take 4) = value.length := by
    rw [drop_left, take_left' (BigEndian.length_encode _ _), BigEndian.decode_encode_of_lt bound]
  have tail_eq : (name ++ (BigEndian.encode 4 value.length ++ (value ++ rest))).drop
      (name.length + 4) = value ++ rest := by
    rw [← append_assoc, drop_left' (by simp)]
  rw [flat, decodePropertiesLoop]
  simp only [name_len, value_len, tail_eq, take_left, readProperty, length_eq_zero_iff]
  split
  · rfl
  · rw [if_neg (by simp)]
    split
    · rfl
    · rw [if_neg (by simp), drop_left]

theorem decodePropertiesLoop_writeProperties (fuel : Nat) (props : PeerProperties) (rest : Bytes)
    (writable : ∀ property ∈ properties, Writable property) :
    decodePropertiesLoop (properties.length + fuel) props (writeProperties properties ++ rest) =
      properties.foldlM readProperty props >>= fun next => decodePropertiesLoop fuel next rest := by
  induction properties generalizing props with
  | nil => simp [writeProperties]
  | cons property properties ih =>
    obtain ⟨first, later⟩ := forall_mem_cons.mp writable
    have flat : writeProperties (property :: properties) ++ rest =
        writeProperty property.1 property.2 ++ (writeProperties properties ++ rest) := by
      simp [writeProperties]
    rw [flat, length_cons, Nat.add_right_comm, decodePropertiesLoop_writeProperty _ _ _ first,
      foldlM_cons, bind_assoc]
    congr 1
    funext next
    exact ih next later

theorem length_writeProperties : properties.length ≤ (writeProperties properties).length := by
  induction properties with
  | nil => simp
  | cons property properties ih =>
    have nonempty : 0 < (writeProperty property.1 property.2).length := by simp [writeProperty]
    simp only [writeProperties, map_cons, flatten_cons, length_append, length_cons] at ih ⊢
    omega

/-- A body which starts with written properties is read property by property. -/
theorem decodeProperties_writeProperties (writable : ∀ property ∈ properties, Writable property)
    (rest : Bytes) :
    ∃ fuel, decodeProperties (writeProperties properties ++ rest) =
      properties.foldlM readProperty .new >>= fun next => decodePropertiesLoop fuel next rest := by
  obtain ⟨fuel, fuel_eq⟩ := Nat.exists_eq_add_of_le (@length_writeProperties properties)
  refine ⟨fuel + rest.length, ?_⟩
  rw [decodeProperties, length_append, fuel_eq, Nat.add_assoc,
    decodePropertiesLoop_writeProperties _ _ _ writable]

theorem decodeProperties_eq (writable : ∀ property ∈ properties, Writable property) :
    decodeProperties (writeProperties properties) = properties.foldlM readProperty .new := by
  obtain ⟨fuel, read⟩ := decodeProperties_writeProperties writable []
  have ended (next : PeerProperties) : decodePropertiesLoop fuel next [] = .ok next := by
    cases fuel <;> rfl
  rw [append_nil] at read
  simp only [read, ended]
  exact bind_pure _

/-- A name which the list of other properties can carry. -/
def otherName (name : Bytes) : Prop :=
  name ≠ [] ∧ name.all isPropertyByte = true ∧
    eqIgnoreAsciiCase name (ascii "Socket-Type") = false ∧
      eqIgnoreAsciiCase name (ascii "Identity") = false

/-- Properties as the decoder builds them. -/
def Canonical (props : PeerProperties) : Prop :=
  props.identity ≠ some [] ∧ ∀ property ∈ props.other, otherName property.1

variable {props : PeerProperties}

theorem readProperty_other (other : otherName property.1) :
    readProperty props property = .ok { props with other := props.other ++ [property] } := by
  obtain ⟨named, legal, not_type, not_identity⟩ := other
  simp [readProperty, named, legal, addProperty, not_type, not_identity]

theorem foldlM_other {others : List (Bytes × Bytes)}
    (named : ∀ property ∈ others, otherName property.1) :
    others.foldlM readProperty props = .ok { props with other := props.other ++ others } := by
  induction others generalizing props with
  | nil => simp; rfl
  | cons property others ih =>
    obtain ⟨first, later⟩ := forall_mem_cons.mp named
    rw [foldlM_cons, readProperty_other first]
    exact (ih later).trans (by simp)

theorem foldlM_entries (canonical : Canonical props) :
    (entries props).foldlM readProperty .new = .ok props := by
  obtain ⟨socketType, identity, others⟩ := props
  obtain ⟨given, named⟩ := canonical
  have typed : (socketType.map fun socketType =>
      (ascii "Socket-Type", socketType.asStr)).toList.foldlM readProperty .new =
        .ok ⟨socketType, none, []⟩ := by
    cases socketType with
    | none => rfl
    | some socketType => cases socketType <;> decide
  have identified : (identity.map fun identity => (ascii "Identity", identity)).toList.foldlM
      readProperty ⟨socketType, none, []⟩ = .ok ⟨socketType, identity, []⟩ := by
    cases identity with
    | none => rfl
    | some identity =>
      have legal : (ascii "Identity").all isPropertyByte = true := by decide
      have matching : eqIgnoreAsciiCase (ascii "Identity") (ascii "Identity") = true := by decide
      have other : eqIgnoreAsciiCase (ascii "Identity") (ascii "Socket-Type") = false := by decide
      have nonempty : ascii "Identity" ≠ [] := by decide
      have given : identity ≠ [] := by simpa using given
      simp [readProperty, nonempty, legal, addProperty, other, matching, given]
  rw [entries, foldlM_append, foldlM_append, typed]
  exact (congrArg (· >>= others.foldlM readProperty) identified).trans (foldlM_other named)

theorem Canonical.readProperty {props next : PeerProperties}
    (read : readProperty props property = .ok next) (canonical : Canonical props) :
    Canonical next := by
  grind [Command.readProperty, addProperty, otherName, Canonical]

theorem Canonical.foldlM {props next : PeerProperties}
    (read : properties.foldlM Command.readProperty props = .ok next)
    (canonical : Canonical props) : Canonical next := by
  induction properties generalizing props with
  | nil =>
    cases read
    exact canonical
  | cons property properties ih =>
    rw [foldlM_cons] at read
    cases first : Command.readProperty props property with
    | error error => simp [first, bind, Except.bind] at read
    | ok middle =>
      rw [first] at read
      exact ih read (canonical.readProperty first)

/-- Written properties are read back as they were exactly when the decoder can build them. -/
theorem decodeProperties_encodeProperties_iff
    (writable : ∀ property ∈ entries props, Writable property) :
    decodeProperties (encodeProperties props) = .ok props ↔ Canonical props := by
  rw [encodeProperties_eq, decodeProperties_eq writable]
  exact ⟨fun read => .foldlM read ⟨by simp [PeerProperties.new], by simp [PeerProperties.new]⟩,
    foldlM_entries⟩

/-! ## Commands -/

def reservedNames : List Bytes :=
  ["READY", "SUBSCRIBE", "CANCEL", "PING", "PONG", "ERROR", "JOIN", "LEAVE"].map ascii

/-- A command which can be written, with a context the peer takes and a name of its own. -/
def Fits : Command → Prop
  | .ready props => ∀ property ∈ entries props, Writable property
  | .ping _ context => context.length ≤ pingContextMax
  | .pong context => context.length ≤ pingContextMax
  | .error reason => isUtf8 reason = true
  | .unknown name _ => name.length < 256 ∧ name ∉ reservedNames
  | _ => True

/-- A command which comes out of the decoder as it was. -/
def Stable : Command → Prop
  | .ready props => Canonical props
  | .error reason => reason.length ≤ 255
  | _ => True

theorem decode_writeName {name : Bytes} (short : name.length < 256) (body : Bytes) :
    decode (writeName name ++ body) = decodeBody name body := by
  have name_len : (UInt8.ofNat name.length).toNat = name.length := by
    simpa using Nat.mod_eq_of_lt short
  rw [writeName, cons_append, decode, name_len, if_neg (by simp), take_left, drop_left]

theorem decode_encode_error (reason : Bytes) :
    decode (Command.error reason).encode =
      if isUtf8 (reason.take 255) then .ok (.error (reason.take 255))
      else .error (.protocol "ERROR reason not UTF-8") := by
  have text_len : (UInt8.ofNat (reason.take 255).length).toNat = (reason.take 255).length := by
    simp
  have named (body : Bytes) : decodeBody (ascii "ERROR") body = decodeError body := rfl
  rw [encode, decode_writeName (by decide), named, decodeError, text_len,
    if_neg (Nat.lt_irrefl _), take_length]

theorem decode_encode_iff {command : Command} (fits : command.Fits) :
    decode command.encode = .ok command ↔ command.Stable := by
  cases command with
  | ready props =>
    rw [encode, decode_writeName (by decide), Stable, ← decodeProperties_encodeProperties_iff fits]
    change Command.ready <$> _ = _ ↔ _
    cases decodeProperties (encodeProperties props) <;> simp [Functor.map, Except.map]
  | error reason =>
    rw [decode_encode_error, Stable]
    constructor
    · intro same
      obtain ⟨-, same⟩ := ite_eq_iff.mp same |>.resolve_right (by simp)
      simpa using same
    · intro short
      rw [take_of_length_le short]
      exact if_pos fits
  | ping ttl context =>
    have named (body : Bytes) : decodeBody (ascii "PING") body = decodePing body := rfl
    refine iff_of_true ?_ trivial
    rw [encode, append_assoc, decode_writeName (by decide), named, decodePing,
      if_neg (by simp; omega), drop_left' (by simp), take_left' (by simp),
      BigEndian.decode_encode_of_lt ttl.toNat_lt, UInt16.ofNat_toNat]
    exact if_neg (Nat.not_lt.mpr fits)
  | pong context =>
    refine iff_of_true ((decode_writeName (by decide) _).trans ?_) trivial
    exact if_neg (Nat.not_lt.mpr fits)
  | unknown name body =>
    obtain ⟨short, free⟩ := fits
    simp only [reservedNames, map_cons, map_nil, mem_cons, not_mem_nil, not_or] at free
    simp [encode, decode_writeName short, decodeBody, free, Stable]
  | _ => exact iff_of_true ((decode_writeName (by decide) _).trans rfl) trivial

theorem decode_encode_ready (socketType : SocketType) {identity : Option Bytes}
    (announced : ∀ bytes ∈ identity, bytes ≠ [] ∧ bytes.length < 256 ^ 4) :
    decode (Command.ready ⟨some socketType, identity, []⟩).encode =
      .ok (.ready ⟨some socketType, identity, []⟩) := by
  have type_length := socketType.length_asStr_le
  refine (decode_encode_iff ?_).mpr ⟨fun empty => (announced [] empty).1 rfl, by simp⟩
  rintro ⟨name, value⟩ member
  simp [entries] at member
  rcases member with ⟨rfl, rfl⟩ | ⟨given, rfl⟩
  · exact ⟨show (ascii "Socket-Type").length < 256 by decide, by dsimp only; omega⟩
  · exact ⟨show (ascii "Identity").length < 256 by decide, (announced _ given).2⟩

/-- A command is read back exactly when it is stable, and an over-long reason only when it is not
cut inside a character. -/
theorem read_back_iff_stable (command : Command) (reason : Bytes) :
    (command.Fits → (decode command.encode = .ok command ↔ command.Stable)) ∧
    (isUtf8 reason = true →
      ((∃ command, decode (Command.error reason).encode = .ok command) ↔
        isUtf8 (reason.take 255) = true)) := by
  refine ⟨decode_encode_iff, fun _ => ?_⟩
  rw [decode_encode_error]
  split <;> simp_all

theorem reason_cut_inside_character :
    let reason := replicate 254 0x61 ++ [0xC3, 0xA9]
    isUtf8 reason = true ∧ decode (Command.error reason).encode =
      .error (.protocol "ERROR reason not UTF-8") := by
  decide +kernel

theorem pong_read_back : decode (Command.pong [1, 2]).encode = .ok (.pong [1, 2]) :=
  ((read_back_iff_stable (.pong [1, 2]) []).1 (by simp [Fits, pingContextMax])).mpr trivial

/-! ## Duplicate properties -/

def isType (property : Bytes × Bytes) : Prop :=
  eqIgnoreAsciiCase property.1 (ascii "Socket-Type") = true

def isIdentity (property : Bytes × Bytes) : Prop :=
  eqIgnoreAsciiCase property.1 (ascii "Identity") = true

/-- A property which the decoder takes where no other stands before it. -/
def Acceptable (property : Bytes × Bytes) : Prop :=
  property.1 ≠ [] ∧ property.1.all isPropertyByte = true ∧
    (isType property → (SocketType.fromWire property.2).isSome = true)

/-- The duplicates which are noticed: an empty identity leaves no trace. -/
def Clash (earlier later : Bytes × Bytes) : Prop :=
  isType earlier ∧ isType later ∨ isIdentity earlier ∧ earlier.2 ≠ [] ∧ isIdentity later

def Clashes (props : PeerProperties) (later : Bytes × Bytes) : Prop :=
  isType later ∧ props.socketType.isSome = true ∨ isIdentity later ∧ props.identity.isSome = true

theorem isType.not_isIdentity (type : isType property) : ¬isIdentity property := by
  have distinct : (ascii "Socket-Type").map toAsciiLower ≠ (ascii "Identity").map toAsciiLower := by
    decide
  grind [isType, isIdentity, eqIgnoreAsciiCase]

theorem exists_readProperty_iff :
    (∃ next, readProperty props property = .ok next) ↔
      Acceptable property ∧ ¬Clashes props property := by
  have exclusive := @isType.not_isIdentity property
  simp only [readProperty, addProperty, Acceptable, Clashes, isType, isIdentity] at exclusive ⊢
  cases SocketType.fromWire property.2 <;> split_ifs <;> simp_all

theorem clashes_of_readProperty {props next : PeerProperties}
    (read : readProperty props property = .ok next) (later : Bytes × Bytes) :
    Clashes next later ↔ Clashes props later ∨ Clash property later := by
  have exclusive := @isType.not_isIdentity property
  simp only [Clash, Clashes, isType, isIdentity] at exclusive ⊢
  simp only [readProperty, addProperty] at read
  cases type : SocketType.fromWire property.2 <;> simp only [type] at read <;>
    split_ifs at read <;> cases read <;> grind

theorem exists_foldlM_iff :
    (∃ next, properties.foldlM readProperty props = .ok next) ↔
      (∀ property ∈ properties, Acceptable property ∧ ¬Clashes props property) ∧
        properties.Pairwise fun earlier later => ¬Clash earlier later := by
  induction properties generalizing props with
  | nil => simp [pure, Except.pure]
  | cons property properties ih =>
    rw [foldlM_cons, forall_mem_cons, ← exists_readProperty_iff, pairwise_cons]
    cases first : readProperty props property with
    | error error => simp [bind, Except.bind]
    | ok middle =>
      change (∃ next, properties.foldlM readProperty middle = .ok next) ↔ _
      simp only [ih, clashes_of_readProperty first]
      grind

/-- A body is refused for its first properties exactly when one of them is not acceptable or two of
them clash, so a second identity behind empty ones is taken. -/
theorem refused_iff_clash (writable : ∀ property ∈ properties, Writable property) :
    (∀ rest, ∃ error, decodeProperties (writeProperties properties ++ rest) = .error error) ↔
      ¬((∀ property ∈ properties, Acceptable property) ∧
        properties.Pairwise fun earlier later => ¬Clash earlier later) := by
  have fresh (property : Bytes × Bytes) : ¬Clashes .new property := by
    simp [Clashes, PeerProperties.new]
  have read_iff := @exists_foldlM_iff properties .new
  simp only [fresh, not_false_eq_true, and_true] at read_iff
  rw [← read_iff]
  constructor
  · rintro refused ⟨next, read⟩
    obtain ⟨error, failed⟩ := refused []
    rw [append_nil, decodeProperties_eq writable, read] at failed
    cases failed
  · intro unread rest
    obtain ⟨fuel, read⟩ := decodeProperties_writeProperties writable rest
    cases folded : properties.foldlM readProperty .new with
    | error error => exact ⟨error, by rw [read, folded]; rfl⟩
    | ok next => exact absurd ⟨next, folded⟩ unread

/-- A second identity passes behind an empty one. -/
theorem second_identity_read :
    decodeProperties (writeProperties [(ascii "Identity", []), (ascii "IDENTITY", ascii "a")]) =
      .ok ⟨none, some (ascii "a"), []⟩ := by
  decide +kernel

theorem second_identity_refused :
    ∃ error, decodeProperties (writeProperties
      [(ascii "Identity", ascii "a"), (ascii "identity", [])] ++ []) = .error error :=
  (refused_iff_clash (by simp [Writable, ascii])).mpr
    (fun accepted => absurd accepted.2 (by simp [Clash, isType, isIdentity]; decide)) []

end Command

end Omq
