import LedgerClient.Address.Program
import LedgerClient.Instruction.Basic
import LedgerClient.Instruction.Discriminant

/-! # The token program

A payload is a number of one byte and then, for a transfer, the amount. Whoever
has authority over an account is either one owner who signs, or a shared account
that does not, followed by those who sign for it.
-/

namespace LedgerClient

/-- What the token program can be asked to do. -/
inductive TokenInstruction where
  | initializeAccount (account mint owner : PublicKey)
  | transfer (source destination owner : PublicKey) (signers : List PublicKey) (amount : UInt64)
  | closeAccount (account destination owner : PublicKey) (signers : List PublicKey)
  /-- Make the balance of a native coin account equal to the coins it holds. -/
  | syncNative (account : PublicKey)
deriving DecidableEq

namespace TokenInstruction

/-- The number of an instruction. -/
def number : TokenInstruction → UInt32
  | initializeAccount .. => 1
  | transfer .. => 3
  | closeAccount .. => 9
  | syncNative .. => 17

/-- An owner who signs, or one for whom others do. -/
def authority (owner : PublicKey) (signers : List PublicKey) : List AccountMeta :=
  .readonly owner signers.isEmpty :: signers.map (.readonly · true)

/-- The accounts of an instruction. -/
def accounts : TokenInstruction → List AccountMeta
  | initializeAccount account mint owner =>
    [.writable account false, .readonly mint false, .readonly owner false,
      .readonly Address.rent false]
  | transfer source destination owner signers _ =>
    .writable source false :: .writable destination false :: authority owner signers
  | closeAccount account destination owner signers =>
    .writable account false :: .writable destination false :: authority owner signers
  | syncNative account => [.writable account false]

/-- The arguments of an instruction. -/
def arguments : TokenInstruction → List UInt8
  | transfer _ _ _ _ amount => LittleEndian.encode 8 amount.toNat
  | _ => []

/-- The payload of an instruction. -/
def data (instruction : TokenInstruction) : Except LedgerError (List UInt8) :=
  Discriminant.byte.encode instruction.number instruction.arguments

/-- An instruction for the token program. -/
def toInstruction (instruction : TokenInstruction) : Instruction :=
  ⟨Address.tokenProgram, instruction.accounts, instruction.data⟩

/-- Read a payload for a list of accounts. All accounts from the fourth on sign. -/
def read (accounts : List AccountMeta) : Reader TokenInstruction := do
  let account := fun index role => Reader.ofExcept (AccountMeta.lookup accounts index role)
  let signers := (accounts.drop 3).map AccountMeta.key
  match ← Discriminant.byte.read with
  | 1 =>
    return .initializeAccount (← account 0 "token") (← account 1 "mint") (← account 2 "owner")
  | 3 =>
    return .transfer (← account 0 "source") (← account 1 "destination") (← account 2 "owner")
      signers (← Reader.word64)
  | 9 =>
    return .closeAccount (← account 0 "token") (← account 1 "destination") (← account 2 "owner")
      signers
  | 17 => return .syncNative (← account 0 "native token")
  | other => throw (.invalidInstruction s!"unsupported token instruction {other}")

/-- The instruction that accounts and a payload spell; no byte may be left over. -/
def decode (accounts : List AccountMeta) (data : List UInt8) :
    Except LedgerError TokenInstruction :=
  Reader.run (do
    let instruction ← read accounts
    Reader.finish
    return instruction) data

end TokenInstruction

end LedgerClient
