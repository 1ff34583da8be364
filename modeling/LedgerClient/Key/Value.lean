import LedgerClient.Bytes
import LedgerClient.Error.Basic
import LedgerClient.Text.Base58

/-! # Public keys, hashes and signatures

All three are byte strings of a fixed width with Base58 text and a distinguished
all-zero value that means "unset". What sets them apart is their kind, so a hash
is never taken for a key.
-/

namespace LedgerClient

/-- What a Base58 value stands for. -/
inductive ValueKind where
  /-- An account address, which is a compressed curve point or lies off the curve. -/
  | publicKey
  /-- A content hash, also the mark of liveness of a message. -/
  | hash
  | signature
deriving DecidableEq

/-- Bytes in a value. -/
@[reducible] def ValueKind.width : ValueKind → Nat
  | .publicKey => 32
  | .hash => 32
  | .signature => 64

/-- The name of a kind in diagnostics. -/
def ValueKind.label : ValueKind → String
  | .publicKey => "PublicKey"
  | .hash => "Hash"
  | .signature => "Signature"

/-- A value of fixed width whose text is Base58. -/
structure Base58Value (kind : ValueKind) where
  bytes : Bytes kind.width
deriving DecidableEq

/-- The address of an account. -/
abbrev PublicKey := Base58Value .publicKey

/-- A 32-byte hash. -/
abbrev Hash := Base58Value .hash

/-- A signature; all zero where a slot has not been signed. -/
abbrev Signature := Base58Value .signature

namespace Base58Value

variable {kind : ValueKind}

/-- The unset value. -/
def zero : Base58Value kind := ⟨.zero _⟩

instance : Inhabited (Base58Value kind) := ⟨zero⟩

instance : LawfulBEq (Base58Value kind) := inferInstance

/-- Whether a value is unset. -/
def isZero (value : Base58Value kind) : Bool := value.bytes.isZero

/-- The bytes of a value as a list. -/
def toList (value : Base58Value kind) : List UInt8 := value.bytes.toList

@[simp] theorem length_toList (value : Base58Value kind) : value.toList.length = kind.width :=
  value.bytes.length_toList

/-- The value that a byte list holds, if its width is right. -/
def ofList (bytes : List UInt8) : Except LedgerError (Base58Value kind) :=
  match Bytes.ofList? kind.width bytes with
  | some held => .ok ⟨held⟩
  | none => .error (.invalidLength kind.width bytes.length)

/-- The value that a text spells. -/
def parse (text : String) : Except LedgerError (Base58Value kind) :=
  match Base58.decode text with
  | .ok bytes => ofList bytes
  | .error fault => .error (.invalidBase58 fault.message)

/-- The text of a value. -/
def text (value : Base58Value kind) : String := Base58.encode value.toList

/-- The text of a value with the name of its kind, for diagnostics. -/
def debugText (value : Base58Value kind) : String :=
  let label := kind.label
  let shown := value.text
  s!"{label}({shown})"

/-- Values are ordered by their bytes. -/
instance : Ord (Base58Value kind) := ⟨fun first second => compare first.bytes second.bytes⟩

end Base58Value

end LedgerClient
