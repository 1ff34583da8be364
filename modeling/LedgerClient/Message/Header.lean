import LedgerClient.Wire.Cursor

/-! # Message headers

The accounts of a message come in four blocks: signers that may be written,
signers that are only read, other accounts that may be written, other accounts
that are only read. Three counts say where the blocks end, so the privileges of
an account follow from its place.
-/

namespace LedgerClient

/-- The three counts in front of a message. -/
structure Header where
  /-- Accounts that sign. -/
  required : UInt8
  /-- The last so many signers are only read. -/
  readonlySigned : UInt8
  /-- The last so many other accounts are only read. -/
  readonlyUnsigned : UInt8
deriving DecidableEq

namespace Header

/-- Check the counts against the number of keys: the signers are among the keys,
the first signer can be written, and the accounts that are only read fit after
the signers. -/
def validate (header : Header) (keys : Nat) : Except LedgerError Unit :=
  let signers := header.required.toNat
  if keys < signers then
    .error (.invalidHeader s!"{signers} required signatures but only {keys} account keys")
  else if header.required ≤ header.readonlySigned then
    let readonly := header.readonlySigned
    .error (.invalidHeader s!"{readonly} read-only signers out of {signers} signers")
  else if keys - signers < header.readonlyUnsigned.toNat then
    let readonly := header.readonlyUnsigned
    let others := keys - signers
    .error (.invalidHeader
      s!"{readonly} read-only unsigned accounts but only {others} unsigned keys")
  else .ok ()

/-- The bytes of a header. -/
def encode (header : Header) : List UInt8 :=
  [header.required, header.readonlySigned, header.readonlyUnsigned]

/-- Read a header. -/
def read : Reader Header :=
  return ⟨← Reader.byte, ← Reader.byte, ← Reader.byte⟩

end Header

end LedgerClient
