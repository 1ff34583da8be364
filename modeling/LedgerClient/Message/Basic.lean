import LedgerClient.Instruction.Basic
import LedgerClient.Message.AddressTables
import LedgerClient.Message.Header

/-! # Messages

A message holds the keys of its accounts once and names them by index. A message
of the newer version may take further accounts from address tables: resolving
puts their keys behind the message's own, all that may be written before all that
are only read.
-/

namespace LedgerClient

/-- The two forms of a message. -/
inductive MessageVersion where
  | legacy
  | v0
deriving DecidableEq

/-- An instruction whose program and accounts are given by their index. -/
structure CompiledInstruction where
  program : UInt16
  accounts : List UInt16
  data : List UInt8
deriving DecidableEq

/-- What the signers of a transaction sign. -/
structure Message where
  version : MessageVersion
  header : Header
  /-- The message's own keys, followed by the looked-up keys once resolved. -/
  keys : List PublicKey
  /-- A recent hash of the ledger, which shows that the message is not stale. -/
  blockhash : Hash
  instructions : List CompiledInstruction
  lookups : List TableLookup
  /-- Table contents, once they are attached. -/
  tables : Option AddressTables
  /-- Whether the looked-up keys are in place. -/
  isResolved : Bool
deriving DecidableEq

namespace Message

/-- A message without tables that is not resolved. -/
def ofParts (version : MessageVersion) (header : Header) (keys : List PublicKey)
    (blockhash : Hash) (instructions : List CompiledInstruction) (lookups : List TableLookup) :
    Message :=
  ⟨version, header, keys, blockhash, instructions, lookups, none, false⟩

/-- How many accounts come from tables and may be written. -/
def writableLookupCount (message : Message) : Nat :=
  (message.lookups.flatMap TableLookup.writable).length

/-- How many accounts come from tables. -/
def lookupCount (message : Message) : Nat :=
  (message.lookups.flatMap fun lookup => lookup.writable ++ lookup.readonly).length

/-- How many keys are the message's own. -/
def staticCount (message : Message) : Nat :=
  if message.isResolved then message.keys.length - message.lookupCount else message.keys.length

/-- The message's own keys. -/
def staticKeys (message : Message) : List PublicKey := message.keys.take message.staticCount

/-- The keys that sign, in the order of their signatures. -/
def signerKeys (message : Message) : List PublicKey :=
  message.keys.take message.header.required.toNat

/-- The key at an index. -/
def account? (message : Message) (index : Nat) : Option PublicKey := message.keys[index]?

/-- Whether the account at an index signs. -/
def isSigner (message : Message) (index : Nat) : Bool :=
  decide (index < message.header.required.toNat)

/-- Whether the account at an index may be written. -/
def isWritable (message : Message) (index : Nat) : Bool :=
  let statics := message.staticCount
  let signers := message.header.required.toNat
  if statics ≤ index then decide (index - statics < message.writableLookupCount)
  else if index < signers then decide (index < signers - message.header.readonlySigned.toNat)
  else decide (index - signers < statics - signers - message.header.readonlyUnsigned.toNat)

/-- Attach table contents, which is done once. -/
def setAddressTables (message : Message) (tables : AddressTables) : Except LedgerError Message :=
  match message.tables with
  | some _ => .error .addressTablesAlreadySet
  | none => .ok { message with tables := some tables }

/-- Put the looked-up keys behind the message's own. A message that is resolved
stays as it is. -/
def resolveLookups (message : Message) : Except LedgerError Message :=
  if message.isResolved then .ok message
  else
    match message.lookups, message.tables with
    | [], _ => .ok { message with isResolved := true }
    | lookup :: _, none => .error (.missingAddressTable lookup.table.text)
    | lookups, some tables => do
      let loaded ← lookups.mapM (·.load tables)
      return { message with
        keys := message.keys ++ (loaded.map Prod.fst).flatten ++ (loaded.map Prod.snd).flatten
        isResolved := true }

end Message

namespace CompiledInstruction

/-- The program that an instruction invokes. -/
def programKey (instruction : CompiledInstruction) (message : Message) :
    Except LedgerError PublicKey :=
  match message.account? instruction.program.toNat with
  | some key => .ok key
  | none => .error (.accountIndexOutOfRange instruction.program.toNat)

/-- The account at an index, with its privileges in the whole message. -/
def accountAt (message : Message) (index : UInt16) : Except LedgerError AccountMeta :=
  match message.account? index.toNat with
  | some key => .ok ⟨key, message.isSigner index.toNat, message.isWritable index.toNat⟩
  | none => .error (.accountIndexOutOfRange index.toNat)

/-- The accounts of an instruction, with their privileges in the whole message. -/
def resolveAccounts (instruction : CompiledInstruction) (message : Message) :
    Except LedgerError (List AccountMeta) :=
  instruction.accounts.mapM (accountAt message)

end CompiledInstruction

end LedgerClient
