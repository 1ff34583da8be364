import LedgerClient.Address.Derived
import LedgerClient.Instruction.Basic
import LedgerClient.Instruction.Discriminant

/-! # The system program

It creates accounts, hands them to programs and moves coins. A payload is a
number of four bytes and then the arguments, each of a fixed width but for a
seed, which follows its length.
-/

namespace LedgerClient

/-- What the system program can be asked to do. -/
inductive SystemInstruction where
  | createAccount (funding created : PublicKey) (lamports space : UInt64) (owner : PublicKey)
  | assign (account owner : PublicKey)
  | transfer (source recipient : PublicKey) (lamports : UInt64)
  /-- Create the account whose address `base`, `seed` and `owner` give. -/
  | createAccountWithSeed (funding created base : PublicKey) (seed : String)
      (lamports space : UInt64) (owner : PublicKey)
deriving DecidableEq

namespace SystemInstruction

/-- The number of an instruction. -/
def number : SystemInstruction → UInt32
  | createAccount .. => 0
  | assign .. => 1
  | transfer .. => 2
  | createAccountWithSeed .. => 3

/-- The accounts of an instruction. A base that pays for the account itself is
not listed twice. -/
def accounts : SystemInstruction → List AccountMeta
  | createAccount funding created .. => [.writable funding true, .writable created true]
  | assign account _ => [.writable account true]
  | transfer source recipient _ => [.writable source true, .writable recipient false]
  | createAccountWithSeed funding created base .. =>
    [.writable funding true, .writable created false] ++
      if base = funding then [] else [.readonly base true]

/-- Eight bytes, little-endian. -/
def wide (n : UInt64) : List UInt8 := LittleEndian.encode 8 n.toNat

/-- The arguments of an instruction; a seed must not be too long. -/
def arguments : SystemInstruction → Except LedgerError (List UInt8)
  | createAccount _ _ lamports space owner => .ok (wide lamports ++ wide space ++ owner.toList)
  | assign _ owner => .ok owner.toList
  | transfer _ _ lamports => .ok (wide lamports)
  | createAccountWithSeed _ _ base seed lamports space owner =>
    let bytes := Utf8.encode seed
    if Address.maxSeedLength < bytes.length then .error (.seedTooLong bytes.length)
    else
      .ok (base.toList ++ LittleEndian.encode 8 bytes.length ++ bytes ++ wide lamports ++
        wide space ++ owner.toList)

/-- The payload of an instruction. -/
def data (instruction : SystemInstruction) : Except LedgerError (List UInt8) := do
  Discriminant.word.encode instruction.number (← instruction.arguments)

/-- An instruction for the system program. -/
def toInstruction (instruction : SystemInstruction) : Instruction :=
  ⟨Address.systemProgram, instruction.accounts, instruction.data⟩

/-- Take a public key. -/
def readKey : Reader PublicKey := return ⟨← Reader.fixed 32⟩

/-- Take a seed, which follows its length. -/
def readSeed : Reader String := do
  let length := (← Reader.word64).toNat
  if Address.maxSeedLength < length then
    throw (.seedTooLong length)
  match Utf8.decode (← Reader.take length) with
  | .ok seed => return seed
  | .error fault =>
    let reason := fault.message
    throw (.invalidInstruction s!"seed is not utf-8: {reason}")

/-- Read a payload for a list of accounts. -/
def read (accounts : List AccountMeta) : Reader SystemInstruction := do
  let account := fun index role => Reader.ofExcept (AccountMeta.lookup accounts index role)
  match ← Discriminant.word.read with
  | 0 =>
    return .createAccount (← account 0 "funding") (← account 1 "new") (← Reader.word64)
      (← Reader.word64) (← readKey)
  | 1 => return .assign (← account 0 "assigned") (← readKey)
  | 2 => return .transfer (← account 0 "funding") (← account 1 "recipient") (← Reader.word64)
  | 3 =>
    let base ← readKey
    let seed ← readSeed
    return .createAccountWithSeed (← account 0 "funding") (← account 1 "created") base seed
      (← Reader.word64) (← Reader.word64) (← readKey)
  | other => throw (.invalidInstruction s!"unsupported system instruction {other}")

/-- The instruction that accounts and a payload spell; no byte may be left over. -/
def decode (accounts : List AccountMeta) (data : List UInt8) :
    Except LedgerError SystemInstruction :=
  Reader.run (do
    let instruction ← read accounts
    Reader.finish
    return instruction) data

end SystemInstruction

end LedgerClient
