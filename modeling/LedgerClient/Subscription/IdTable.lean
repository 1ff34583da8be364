/-! # Tables by id -/

namespace LedgerClient

/-- What is known under ids. -/
structure IdTable (β : Type) where
  entries : List (UInt64 × β)

namespace IdTable

variable {β : Type}

/-- A table with nothing in it. -/
def empty : IdTable β := ⟨[]⟩

/-- What is known under an id. -/
def find? (table : IdTable β) (id : UInt64) : Option β := table.entries.lookup id

/-- Whether something is known under an id. -/
def contains (table : IdTable β) (id : UInt64) : Bool := (table.find? id).isSome

/-- How many ids there are. -/
def size (table : IdTable β) : Nat := table.entries.length

/-- Forget what is known under an id. -/
def erase (table : IdTable β) (id : UInt64) : IdTable β :=
  ⟨table.entries.filter (·.1 != id)⟩

/-- Put a value under an id, in place of another one. -/
def insert (table : IdTable β) (id : UInt64) (value : β) : IdTable β :=
  ⟨(id, value) :: (table.erase id).entries⟩

end IdTable

end LedgerClient
