import LedgerClient.Key.Value

/-! # Address tables

A table lists addresses under the address of the table itself. A message refers
to an address in a table by its index, which takes one byte.
-/

namespace LedgerClient

/-- The contents of some tables, in order of the tables' addresses. -/
structure AddressTables where
  entries : List (PublicKey × List PublicKey)
deriving DecidableEq

namespace AddressTables

/-- No tables. -/
def empty : AddressTables := ⟨[]⟩

/-- Put a table among sorted tables; contents that it had are replaced. -/
def insertInto (table : PublicKey) (addresses : List PublicKey) :
    List (PublicKey × List PublicKey) → List (PublicKey × List PublicKey)
  | [] => [(table, addresses)]
  | entry :: rest =>
    match compare table entry.1 with
    | .lt => (table, addresses) :: entry :: rest
    | .eq => (table, addresses) :: rest
    | .gt => entry :: insertInto table addresses rest

/-- Set the contents of a table. -/
def insert (tables : AddressTables) (table : PublicKey) (addresses : List PublicKey) :
    AddressTables :=
  ⟨insertInto table addresses tables.entries⟩

/-- The tables of a list. Of a table that is listed twice the last contents stay. -/
def ofList (listed : List (PublicKey × List PublicKey)) : AddressTables :=
  listed.foldl (fun tables entry => tables.insert entry.1 entry.2) empty

/-- The contents of a table. -/
def find? (tables : AddressTables) (table : PublicKey) : Option (List PublicKey) :=
  tables.entries.lookup table

end AddressTables

/-- The accounts that a message takes from one table, by index. -/
structure TableLookup where
  table : PublicKey
  /-- Accounts that may be written. -/
  writable : List UInt8
  /-- Accounts that are only read. -/
  readonly : List UInt8
deriving DecidableEq

namespace TableLookup

/-- The address at an index of a table. -/
def fetch (lookup : TableLookup) (addresses : List PublicKey) (index : UInt8) :
    Except LedgerError PublicKey :=
  match addresses[index.toNat]? with
  | some address => .ok address
  | none => .error (.lookupIndexOutOfRange lookup.table.text index)

/-- The addresses that a lookup takes: those that may be written, and the others. -/
def load (lookup : TableLookup) (tables : AddressTables) :
    Except LedgerError (List PublicKey × List PublicKey) := do
  match tables.find? lookup.table with
  | none => throw (.missingAddressTable lookup.table.text)
  | some addresses =>
    return (← lookup.writable.mapM (lookup.fetch addresses),
      ← lookup.readonly.mapM (lookup.fetch addresses))

end TableLookup

end LedgerClient
