import LedgerClient.Address.Derived
import LedgerClient.Instruction.Basic

/-! # The program of associated token accounts

It has one instruction, which carries no payload: create the token account of a
wallet for a mint at the address derived from both.
-/

namespace LedgerClient

/-- Create the associated token account of a wallet for a mint. -/
structure AssociatedTokenInstruction where
  payer : PublicKey
  associated : PublicKey
  wallet : PublicKey
  mint : PublicKey
deriving DecidableEq

namespace AssociatedTokenInstruction

/-- The instruction with the address that the wallet and the mint give. -/
def create (payer wallet mint : PublicKey) : Except LedgerError AssociatedTokenInstruction := do
  let (associated, _) ← Address.findAssociatedToken wallet mint
  return ⟨payer, associated, wallet, mint⟩

/-- The accounts of an instruction. -/
def accounts (instruction : AssociatedTokenInstruction) : List AccountMeta :=
  [.writable instruction.payer true, .writable instruction.associated false,
    .readonly instruction.wallet false, .readonly instruction.mint false,
    .readonly Address.systemProgram false, .readonly Address.tokenProgram false,
    .readonly Address.rent false]

/-- The payload of an instruction, which is empty. -/
def data (_ : AssociatedTokenInstruction) : Except LedgerError (List UInt8) := .ok []

/-- An instruction for the program of associated token accounts. -/
def toInstruction (instruction : AssociatedTokenInstruction) : Instruction :=
  ⟨Address.associatedTokenProgram, instruction.accounts, instruction.data⟩

/-- The instruction that accounts and an empty payload spell. -/
def decode (accounts : List AccountMeta) (data : List UInt8) :
    Except LedgerError AssociatedTokenInstruction := do
  if data ≠ [] then throw (.trailingBytes data.length)
  let payer ← AccountMeta.lookup accounts 0 "payer"
  let associated ← AccountMeta.lookup accounts 1 "associated token"
  let wallet ← AccountMeta.lookup accounts 2 "wallet"
  let mint ← AccountMeta.lookup accounts 3 "mint"
  return ⟨payer, associated, wallet, mint⟩

end AssociatedTokenInstruction

end LedgerClient
