import LedgerClient.Key.Value

/-! # Instructions

An instruction names a program, lists the accounts it touches and carries a
payload only that program understands. A payload may be one that cannot be
written down; the reason is kept, and it comes out when the payload is needed.
-/

namespace LedgerClient

/-- An account that an instruction touches, and with what privileges. -/
structure AccountMeta where
  key : PublicKey
  isSigner : Bool
  isWritable : Bool
deriving DecidableEq

namespace AccountMeta

/-- A reference that lets the program change the account. -/
def writable (key : PublicKey) (isSigner : Bool) : AccountMeta := ⟨key, isSigner, true⟩

/-- A reference that lets the program read the account only. -/
def readonly (key : PublicKey) (isSigner : Bool) : AccountMeta := ⟨key, isSigner, false⟩

/-- The account at a place of a list; `role` is what the program calls it. -/
def lookup (accounts : List AccountMeta) (index : Nat) (role : String) :
    Except LedgerError PublicKey :=
  match accounts[index]? with
  | some account => .ok account.key
  | none => .error (.invalidInstruction s!"missing {role} account")

end AccountMeta

/-- A program, the accounts it is given, and its payload. -/
structure Instruction where
  program : PublicKey
  accounts : List AccountMeta
  data : Except LedgerError (List UInt8)

end LedgerClient
