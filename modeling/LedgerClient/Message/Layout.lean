import LedgerClient.Instruction.Basic
import LedgerClient.Message.AddressTables
import LedgerClient.Message.Header

/-! # Where each account goes

A layout says which keys are a message's own, which come from tables, and in what
order. Keys are sorted into blocks by their privileges: the fee payer, the other
signers that may be written, the signers that are only read, and so on. Inside a
block they keep the order in which they are first mentioned with its privileges.
-/

namespace LedgerClient

namespace Layout

/-- The most accounts of a message, looked-up ones included. -/
def maxAccounts : Nat := 256

/-- The most addresses in a table. -/
def maxTableLength : Nat := 256

/-- The programs of a list of instructions, in order of first use. -/
def programs (instructions : List Instruction) : List PublicKey :=
  (instructions.map Instruction.program).eraseDups

/-- Every mention of an account, then one mention of each program, which is only
read. -/
def mentions (instructions : List Instruction) : List AccountMeta :=
  instructions.flatMap Instruction.accounts ++ (programs instructions).map (.readonly · false)

/-- The mentions with given privileges. -/
def block (isSigner isWritable : Bool) (accounts : List AccountMeta) : List AccountMeta :=
  accounts.filter fun account => account.isSigner == isSigner && account.isWritable == isWritable

/-- Mentions in order of their privileges, the most privileged first. -/
def byPrivilege (accounts : List AccountMeta) : List AccountMeta :=
  block true true accounts ++ block true false accounts ++ block false true accounts ++
    block false false accounts

/-- One entry for each key, at its first mention. A key that any mention lets be
written may be written. -/
def merge (accounts : List AccountMeta) : List AccountMeta :=
  let firsts := accounts.eraseDupsBy fun account other => account.key == other.key
  let writable := ((accounts.filter AccountMeta.isWritable).map AccountMeta.key).eraseDups
  firsts.map fun account =>
    { account with isWritable := account.isWritable || writable.contains account.key }

/-- The accounts of a message, each once. The fee payer is the first of them. -/
def accounts (feePayer : PublicKey) (instructions : List Instruction) : List AccountMeta :=
  .writable feePayer true ::
    (merge (byPrivilege (mentions instructions))).filter fun account => account.key != feePayer

/-- A place in the tables: which table, and which index in it. -/
structure Slot where
  table : Nat
  index : UInt8
deriving DecidableEq

/-- The first place of a key in a list of tables, counted from `table`. -/
def slotFrom (table : Nat) (key : PublicKey) : List (PublicKey × List PublicKey) → Option Slot
  | [] => none
  | (_, addresses) :: rest =>
    match addresses.idxOf? key with
    | some index => some ⟨table, UInt8.ofNat index⟩
    | none => slotFrom (table + 1) key rest

/-- Refuse the first table that is too long. -/
def checkTables (tables : List (PublicKey × List PublicKey)) : Except LedgerError Unit :=
  match tables.find? fun entry => maxTableLength < entry.2.length with
  | some (table, addresses) => .error (.lookupTableTooLarge table.text addresses.length)
  | none => .ok ()

end Layout

/-- An account with its place in the tables, if it comes from one. -/
structure Placed where
  account : AccountMeta
  slot : Option Layout.Slot
deriving DecidableEq

/-- The accounts of a message, and the tables to take some of them from. -/
structure Layout where
  tables : List (PublicKey × List PublicKey)
  placed : List Placed
deriving DecidableEq

namespace Layout

/-- Place the accounts of a message. An account comes from a table if one lists it,
unless it signs or is invoked as a program. -/
def place (feePayer : PublicKey) (instructions : List Instruction)
    (tables : List (PublicKey × List PublicKey)) : Layout :=
  let invoked := programs instructions
  ⟨tables, (accounts feePayer instructions).map fun account =>
    ⟨account,
      if account.isSigner || invoked.contains account.key then none
      else slotFrom 0 account.key tables⟩⟩

/-- The accounts whose keys are the message's own. -/
def statics (layout : Layout) : List AccountMeta :=
  (layout.placed.filter fun placed => placed.slot.isNone).map Placed.account

/-- The keys and indices that come from one table and may be written, or the ones
that are only read. -/
def taken (layout : Layout) (table : Nat) (isWritable : Bool) : List (PublicKey × UInt8) :=
  layout.placed.filterMap fun placed =>
    match placed.slot with
    | some slot =>
      if slot.table = table ∧ placed.account.isWritable = isWritable then
        some (placed.account.key, slot.index)
      else none
    | none => none

/-- What is taken from each table, table by table. -/
def takenByTable (layout : Layout) (isWritable : Bool) : List (List (PublicKey × UInt8)) :=
  (List.range layout.tables.length).map fun table => layout.taken table isWritable

/-- The lookups of the tables that an account comes from. -/
def lookups (layout : Layout) : List TableLookup :=
  layout.tables.zipIdx.filterMap fun ((table, _), index) =>
    let writable := (layout.taken index true).map Prod.snd
    let readonly := (layout.taken index false).map Prod.snd
    if writable.isEmpty && readonly.isEmpty then none else some ⟨table, writable, readonly⟩

/-- All keys in the order of their indices: the message's own, then the looked-up
ones that may be written, then the others. -/
def keys (layout : Layout) : List PublicKey :=
  layout.statics.map AccountMeta.key ++ (layout.takenByTable true).flatten.map Prod.fst ++
    (layout.takenByTable false).flatten.map Prod.fst

/-- How many of the message's own accounts sign. -/
def signerCount (layout : Layout) : Nat :=
  layout.statics.countP AccountMeta.isSigner

/-- A count in one byte. -/
def headerCount (count : Nat) : Except LedgerError UInt8 :=
  if count < 256 then .ok (UInt8.ofNat count) else .error (.tooManyAccounts count)

/-- The counts of a message, if they and its accounts are not too many. -/
def header (layout : Layout) : Except LedgerError Header := do
  let required ← headerCount layout.signerCount
  let readonlySigned ← headerCount
    (layout.statics.countP fun account => account.isSigner && !account.isWritable)
  let readonlyUnsigned ← headerCount
    (layout.statics.countP fun account => !account.isSigner && !account.isWritable)
  if maxAccounts < layout.keys.length then throw (.tooManyAccounts layout.keys.length)
  return ⟨required, readonlySigned, readonlyUnsigned⟩

end Layout

end LedgerClient
