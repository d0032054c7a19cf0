import Omq.Library.BigEndian

/-!
# Byte strings, machine limits and errors

The vocabulary shared by every module of the protocol engine: byte strings, the limits of the
64-bit target, and the error type of the crate.
-/

namespace Omq

/-- An immutable run of bytes. -/
abbrev Bytes := List UInt8

def ascii (text : String) : Bytes := text.toList.map fun character => UInt8.ofNat character.toNat

def usizeMax : Nat := 2 ^ 64 - 1

/-- `isize::MAX` on a 64-bit target, the largest size of one allocation. -/
def isizeMax : Nat := 2 ^ 63 - 1

def saturatingAdd (left right : Nat) : Nat := min (left + right) usizeMax

def saturatingMul (left right : Nat) : Nat := min (left * right) usizeMax

theorem isizeMax_lt : isizeMax < 256 ^ 8 := by decide

def hexDigit (value : Nat) : Char := "0123456789abcdef".toList.getD value '0'

/-- The `02x` rendering of a byte. -/
def hexByte (byte : UInt8) : String :=
  String.ofList [hexDigit (byte.toNat / 16), hexDigit (byte.toNat % 16)]

/-- The failure modes of the engine, each with the data its message prints. -/
inductive Error
  | unsupportedZmtpVersion (major minor : UInt8)
  | protocol (reason : String)
  | handshakeFailed (reason : String)
  | closed
  | messageTooLarge (size max : Nat)
  | unroutable
  | config (reason : String)
  deriving DecidableEq

section

variable {α β : Type} {first : Except Error α} {next : α → Except Error β} {value : β}

theorem exceptBind_eq_ok :
    first >>= next = .ok value ↔ ∃ middle, first = .ok middle ∧ next middle = .ok value := by
  cases first <;> simp [bind, Except.bind]

theorem exceptGuard_eq_ok {refused : Prop} [Decidable refused] {error : Error}
    {next : Except Error β} :
    (if refused then do throw error; next else next) = .ok value ↔ ¬refused ∧ next = .ok value := by
  split_ifs with holds <;> simp [holds, bind, Except.bind, throw, throwThe, MonadExceptOf.throw]

end

end Omq
