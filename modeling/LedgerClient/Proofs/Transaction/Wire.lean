import LedgerClient.Proofs.Message.Wire
import LedgerClient.Transaction.Wire

/-! # Transactions are read back

The bytes of a transaction are its signatures behind their number, and then the bytes of its
message (`LedgerClient.Transaction.serialize_eq_ok_iff`). Reading a transaction takes these
bytes and no others (`LedgerClient.Transaction.reads_read`). So the bytes behind the
signatures of a transaction that was read are those of its message, and checking its
signatures checks them against what came (`LedgerClient.Transaction.CarriedBy`).
-/

namespace LedgerClient.Transaction

open Cursor CompactLength

variable {transaction : Transaction} {bytes body : List UInt8}

/-- Signatures behind their number. -/
def SpellsSignatures (signatures : List Signature) (bytes : List UInt8) : Prop :=
  ∃ count, encode? signatures.length = .ok count ∧
    bytes = count ++ (signatures.map (·.toList)).flatten

/-- **The bytes of a transaction, part by part.** -/
theorem serialize_eq_ok_iff : transaction.serialize = .ok bytes ↔
    ∃ front body, SpellsSignatures transaction.signatures front ∧
      transaction.message.serialize = .ok body ∧ bytes = front ++ body := by
  simp only [serialize, SpellsSignatures, Outcome.bind_eq_ok_iff, Outcome.pure_eq_ok_iff]
  constructor
  · rintro ⟨body, written, count, counted, rfl⟩
    exact ⟨_, body, ⟨count, counted, rfl⟩, written, rfl⟩
  · rintro ⟨_, body, ⟨count, counted, rfl⟩, written, rfl⟩
    exact ⟨body, written, count, counted, rfl⟩

/-- The bytes of signatures are their fields one after the other. -/
theorem flatten_ofFields (fields : List (Bytes 64)) :
    ((fields.map fun field => (⟨field⟩ : Signature)).map (·.toList)).flatten =
      (fields.map (·.toList)).flatten := by
  rw [List.map_map]
  rfl

/-- **Reading a transaction** takes its bytes. -/
theorem reads_read : read.Reads fun transaction bytes =>
    transaction.message.Readable ∧ transaction.serialize = .ok bytes := by
  have reads := Reader.reads_times_fixed 64
  have size (fields : List (Bytes 64)) (bytes : List UInt8)
      (spelled : bytes = (fields.map (·.toList)).flatten) :
      fields.length * signatureSize ≤ bytes.length :=
    Reader.length_mul_le_of_fixed fields bytes spelled
  intro start transaction reached
  constructor
  · intro whole
    rw [read, readCount_bind_eq_ok_iff reads size] at whole
    obtain ⟨fields, middle, ⟨count, _, counted, rfl, takenFields⟩, rest⟩ := whole
    obtain ⟨message, _, found, done⟩ := Reader.bind_eq_ok_iff.mp rest
    obtain ⟨body, ⟨readable, written⟩, takenBody⟩ := (Message.reads_read _ _ _).mp found
    obtain ⟨rfl, rfl⟩ := Reader.pure_eq_ok_iff.mp done
    refine ⟨_, ⟨readable, ?_⟩, takenFields.append takenBody⟩
    have spelled :
        SpellsSignatures (fields.map (⟨·⟩)) (count ++ (fields.map (·.toList)).flatten) := by
      refine ⟨count, ?_, congrArg (count ++ ·) (flatten_ofFields fields).symm⟩
      rwa [List.length_map]
    exact serialize_eq_ok_iff.mpr ⟨_, body, spelled, written, rfl⟩
  · rintro ⟨bytes, ⟨readable, written⟩, taken⟩
    obtain ⟨_, body, ⟨count, counted, rfl⟩, spelled, rfl⟩ := serialize_eq_ok_iff.mp written
    obtain ⟨middle, takenFields, takenBody⟩ := takes_append_iff.mp taken
    obtain ⟨signatures, message⟩ := transaction
    have fields : (signatures.map (·.bytes)).map (⟨·⟩) = signatures := by
      rw [List.map_map]
      exact List.map_id signatures
    have same := flatten_ofFields (signatures.map (·.bytes))
    rw [fields] at same
    rw [← fields, List.length_map] at counted
    rw [read, readCount_bind_of_takes reads size _ counted same takenFields,
      Reader.bind_of_ok ((Message.reads_read _ _ _).mpr ⟨body, ⟨readable, spelled⟩, takenBody⟩),
      fields]
    rfl

/-- **Bytes are read as a transaction exactly if it spells them.** -/
theorem deserialize_eq_ok_iff : deserialize bytes = .ok transaction ↔
    transaction.message.Readable ∧ transaction.serialize = .ok bytes :=
  reads_read.run_finish_eq_ok_iff

/-! ### Checking signatures -/

/-- The signers of a message that can be read are among its keys, and there is one. -/
theorem length_signerKeys {message : Message} (readable : message.Readable) :
    message.signerKeys.length = message.header.required.toNat ∧
      0 < message.header.required.toNat := by
  obtain ⟨enough, first, _⟩ := Header.validate_eq_ok_iff.mp readable.header
  refine ⟨?_, Nat.zero_lt_of_lt first⟩
  rw [Message.signerKeys, List.length_take]
  omega

/-- **What checking signatures comes to** where the signers are there: there is a signature for
each of them, and each holds for the bytes of the message. -/
theorem verify_eq_ok_iff_of_signers
    (signers : transaction.signerKeys = .ok transaction.message.signerKeys)
    (written : transaction.message.serialize = .ok body) :
    transaction.verify = .ok () ↔ List.Forall₂
      (fun signature key => signature.verify key body = .ok ()) transaction.signatures
      transaction.message.signerKeys := by
  rw [List.forall₂_iff_zip, verify, signers, written]
  simp only [Outcome.bind_eq_ok_iff, Outcome.refuse_eq_ok_iff, Outcome.forM_eq_ok_iff,
    Except.ok.injEq, exists_eq_left', not_not, Prod.forall]

private theorem verify_eq_ok_iff (readable : transaction.message.Readable)
    (written : transaction.message.serialize = .ok body) :
    transaction.verify = .ok () ↔ List.Forall₂
      (fun signature key => signature.verify key body = .ok ()) transaction.signatures
      transaction.message.signerKeys :=
  verify_eq_ok_iff_of_signers (if_pos (length_signerKeys readable).1) written

/-- **What can be relied on about a transaction that came as some bytes.** -/
structure CarriedBy (transaction : Transaction) (bytes : List UInt8) : Prop where
  written : transaction.serialize = .ok bytes
  /-- No other bytes are read as the same transaction. -/
  only : ∀ other, deserialize other = .ok transaction → other = bytes
  /-- What came behind the signatures is what they are checked against. -/
  checked : ∃ front body, SpellsSignatures transaction.signatures front ∧ bytes = front ++ body ∧
    transaction.message.serialize = .ok body ∧
    (transaction.verify = .ok () ↔ List.Forall₂
      (fun signature key => signature.verify key body = .ok ()) transaction.signatures
      transaction.message.signerKeys)
  signed : transaction.verify = .ok () → transaction.signatures ≠ []

/-- **A transaction and its bytes answer to each other.** What is read is written as the bytes
that came, and its signatures are checked against those that came behind them; and what is
written is read back, if its message is as messages are read. -/
theorem carriedBy_and_deserialize_of_serialize :
    (deserialize bytes = .ok transaction → transaction.CarriedBy bytes) ∧
      (transaction.message.Readable → transaction.serialize = .ok bytes →
        deserialize bytes = .ok transaction) := by
  refine ⟨fun found => ?_, fun readable written => deserialize_eq_ok_iff.mpr ⟨readable, written⟩⟩
  obtain ⟨readable, written⟩ := deserialize_eq_ok_iff.mp found
  obtain ⟨front, body, spelled, bodyWritten, split⟩ := serialize_eq_ok_iff.mp written
  have accepts := verify_eq_ok_iff readable bodyWritten
  refine ⟨written, ?_, ⟨front, body, spelled, split, bodyWritten, accepts⟩, ?_⟩
  · intro other again
    have rewritten := (deserialize_eq_ok_iff.mp again).2
    exact Except.ok.inj (rewritten.symm.trans written)
  · intro verified unsigned
    have counts := (accepts.mp verified).length_eq
    obtain ⟨signers, some⟩ := length_signerKeys readable
    rw [unsigned, signers, List.length_nil] at counts
    exact Nat.ne_of_lt some counts

/-- A transaction whose message takes an account from a table. -/
def lookedUp : Transaction := ⟨[⟨.replicate 64 5⟩], Message.looked.carried⟩

/-- The bytes of that transaction. -/
def lookedUpBytes : List UInt8 := [1] ++ List.replicate 64 5 ++ Message.lookedBytes

/-- A transaction whose message has a lookup. -/
theorem carriedBy_lookedUpBytes :
    deserialize lookedUpBytes = .ok lookedUp ∧ lookedUp.CarriedBy lookedUpBytes ∧
      lookedUp.message.Readable ∧ lookedUp.serialize = .ok lookedUpBytes := by
  have readable : lookedUp.message.Readable := ⟨rfl, rfl, rfl⟩
  have written : lookedUp.serialize = .ok lookedUpBytes := rfl
  have found := carriedBy_and_deserialize_of_serialize.2 readable written
  exact ⟨found, carriedBy_and_deserialize_of_serialize.1 found, readable, written⟩

end LedgerClient.Transaction
