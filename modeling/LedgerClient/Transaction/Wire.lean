import LedgerClient.Transaction.Basic

/-! # Transactions on the wire

The signatures, after their number, and then the bytes of the message, which are
the bytes that were signed.
-/

namespace LedgerClient.Transaction

/-- Bytes in a signature. -/
def signatureSize : Nat := 64

/-- The bytes of a transaction. -/
def serialize (transaction : Transaction) : Except LedgerError (List UInt8) := do
  let message ← transaction.message.serialize
  let count ← CompactLength.encode? transaction.signatures.length
  return count ++ (transaction.signatures.map (·.toList)).flatten ++ message

/-- Read a transaction, which bytes may follow. -/
def read : Reader Transaction := do
  let count ← CompactLength.readCount "signature" signatureSize
  let signatures ← Reader.times count (Reader.fixed 64)
  let message ← Message.read
  return ⟨signatures.map (⟨·⟩), message⟩

/-- The transaction that a byte list spells; no byte may be left over. -/
def deserialize (bytes : List UInt8) : Except LedgerError Transaction :=
  Reader.run (do
    let transaction ← read
    Reader.finish
    return transaction) bytes

/-- The Base64 text of a transaction, as it is submitted. -/
def toBase64 (transaction : Transaction) : Except LedgerError String :=
  transaction.serialize.map Armor.encode

/-- The transaction that a Base64 text spells. -/
def ofBase64 (text : String) : Except LedgerError Transaction := do
  deserialize (← Armor.decode text)

end LedgerClient.Transaction
