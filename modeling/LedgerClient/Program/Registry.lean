import LedgerClient.Program.AssociatedToken
import LedgerClient.Program.System
import LedgerClient.Program.Token

/-! # Decoders by program

A registry knows, for some programs, how to read an instruction addressed to
them. Each program has at most one decoder, so the order of entries does not
matter.
-/

namespace LedgerClient

/-- How one program's instructions are read from accounts and payload. -/
abbrev Decoder (α : Type) := List AccountMeta → List UInt8 → Except LedgerError α

/-- Decoders by program. -/
structure Registry (α : Type) where
  entries : List (PublicKey × Decoder α)

namespace Registry

variable {α : Type}

/-- No decoders. -/
def empty : Registry α := ⟨[]⟩

/-- The decoder of a program. -/
def find? (registry : Registry α) (program : PublicKey) : Option (Decoder α) :=
  registry.entries.lookup program

/-- Whether a program has a decoder. -/
def contains (registry : Registry α) (program : PublicKey) : Bool :=
  (registry.find? program).isSome

/-- How many programs have a decoder. -/
def size (registry : Registry α) : Nat := registry.entries.length

/-- Add the decoder of a program that has none. -/
def register (registry : Registry α) (program : PublicKey) (decoder : Decoder α) :
    Except LedgerError (Registry α) :=
  if registry.contains program then .error (.duplicateDecoder program.text)
  else .ok ⟨(program, decoder) :: registry.entries⟩

/-- Read an instruction addressed to a program. -/
def decode (registry : Registry α) (program : PublicKey) (accounts : List AccountMeta)
    (data : List UInt8) : Except LedgerError α :=
  match registry.find? program with
  | some decoder => decoder accounts data
  | none => .error (.unknownProgram program.text)

end Registry

/-- An instruction of one of the known programs. -/
inductive TypedInstruction where
  | system (instruction : SystemInstruction)
  | token (instruction : TokenInstruction)
  | associatedToken (instruction : AssociatedTokenInstruction)
deriving DecidableEq

namespace TypedInstruction

/-- The instruction that its program is sent. -/
def toInstruction : TypedInstruction → Instruction
  | system instruction => instruction.toInstruction
  | token instruction => instruction.toInstruction
  | associatedToken instruction => instruction.toInstruction

/-- Read an instruction of the system program. -/
def decodeSystem : Decoder TypedInstruction := fun accounts data =>
  (SystemInstruction.decode accounts data).map system

/-- Read an instruction of the token program. -/
def decodeToken : Decoder TypedInstruction := fun accounts data =>
  (TokenInstruction.decode accounts data).map token

/-- Read an instruction of the program of associated token accounts. -/
def decodeAssociatedToken : Decoder TypedInstruction := fun accounts data =>
  (AssociatedTokenInstruction.decode accounts data).map associatedToken

/-- Register the decoders of the three known programs, one after the other. -/
def registerAll : Except LedgerError (Registry TypedInstruction) := do
  let registry ← Registry.empty.register Address.systemProgram decodeSystem
  let registry ← registry.register Address.tokenProgram decodeToken
  registry.register Address.associatedTokenProgram decodeAssociatedToken

/-- The decoders of the three known programs. No two of them have one key, so that all can be
registered. -/
def registry : Registry TypedInstruction := registerAll.toOption.getD .empty

end TypedInstruction

end LedgerClient
