import LedgerClient.Message.Layout
import LedgerClient.Message.Wire

/-! # From instructions to a message

The same instructions and options always give the same message.
-/

namespace LedgerClient

/-- The choices a caller makes about a message. -/
structure CompileOptions where
  /-- Who pays. Without one, or with the unset key, it is the first signer of the
  first instruction. -/
  feePayer : Option PublicKey
  /-- Tables to take accounts from, preferred in this order. -/
  addressTables : List (PublicKey × List PublicKey)
  /-- The version to use. Without one, the newer version is used if an account comes
  from a table. -/
  version : Option MessageVersion

namespace CompileOptions

/-- Who pays for a list of instructions. -/
def chooseFeePayer (options : CompileOptions) (instructions : List Instruction) :
    Except LedgerError PublicKey :=
  match options.feePayer.filter fun key => !key.isZero with
  | some payer => .ok payer
  | none =>
    match (instructions.head?.bind fun first => first.accounts.find? AccountMeta.isSigner) with
    | some account => .ok account.key
    | none => .error .noFeePayer

/-- The version of a message with such lookups and so many signers. -/
def chooseVersion (options : CompileOptions) (lookups : List TableLookup) (signers : Nat) :
    Except LedgerError MessageVersion := do
  let version := options.version.getD (if lookups.isEmpty then .legacy else .v0)
  if version = .legacy ∧ lookups ≠ [] then throw .lookupsInLegacyMessage
  if version = .legacy ∧ Message.maxLegacySigners < signers then
    throw (.tooManyLegacySigners signers)
  return version

/-- The tables of the options, as a message wants them. -/
def tables (options : CompileOptions) : AddressTables := .ofList options.addressTables

end CompileOptions

namespace Instruction

/-- The index of a key. -/
def indexOf (keys : List PublicKey) (key : PublicKey) : Except LedgerError UInt16 :=
  match keys.idxOf? key with
  | some index => .ok (UInt16.ofNat index)
  | none =>
    let shown := key.text
    .error (.invalidInstruction s!"account {shown} missing from key space")

/-- An instruction with indices for its keys. -/
def compile (keys : List PublicKey) (instruction : Instruction) :
    Except LedgerError CompiledInstruction := do
  let accounts ← instruction.accounts.mapM fun account => indexOf keys account.key
  let program ← indexOf keys instruction.program
  return ⟨program, accounts, ← instruction.data⟩

end Instruction

namespace Message

/-- The message of a list of instructions. It refers to tables and does not hold
them: attach them and resolve it to see all its keys. -/
def compile (instructions : List Instruction) (blockhash : Hash) (options : CompileOptions) :
    Except LedgerError Message := do
  let feePayer ← options.chooseFeePayer instructions
  Layout.checkTables options.addressTables
  let layout := Layout.place feePayer instructions options.addressTables
  let header ← layout.header
  let keys := layout.keys
  let compiled ← instructions.mapM (Instruction.compile keys)
  let lookups := layout.lookups
  let version ← options.chooseVersion lookups layout.signerCount
  return ofParts version header (layout.statics.map AccountMeta.key) blockhash compiled lookups

end Message

end LedgerClient
