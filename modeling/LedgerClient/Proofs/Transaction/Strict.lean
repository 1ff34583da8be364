import LedgerClient.Proofs.Transaction.Wire
import LedgerClient.Proofs.Wire.Guarded

/-! # Messages and transactions stand up to any bytes

The readers of messages and transactions are made of guarded ones
(`LedgerClient.Message.guarded_read`, `LedgerClient.Transaction.guarded_read`), and each reads
a written form. So the two formats can be read off bytes that nobody vouches for, and no
written form is the beginning of another (`LedgerClient.Transaction.strict_deserialize`).
-/

namespace LedgerClient

open CompactLength (guarded_readCount)
open Reader

/-- Reading a header is guarded. -/
theorem Header.guarded_read : Guarded Header.read :=
  .bind guarded_byte fun _ => .bind guarded_byte fun _ => .bind guarded_byte fun _ =>
    guarded_pure _

private theorem CompiledInstruction.guarded_read : Guarded CompiledInstruction.read := by
  refine .bind guarded_byte fun program => ?_
  refine .bind (guarded_readCount _ _) fun accountCount => .bind (guarded_take _) fun accounts => ?_
  refine .bind (guarded_readCount _ _) fun dataLength => .bind (guarded_take _) fun data => ?_
  exact guarded_pure _

private theorem TableLookup.guarded_read : Guarded TableLookup.read := by
  refine .bind (guarded_fixed _) fun table => ?_
  refine .bind (guarded_readCount _ _) fun writableCount => ?_
  refine .bind (guarded_take _) fun writable => ?_
  refine .bind (guarded_readCount _ _) fun readonlyCount => ?_
  refine .bind (guarded_take _) fun readonly => ?_
  exact guarded_pure _

namespace Message

/-- Reading a version is guarded. -/
theorem guarded_readVersion : Guarded readVersion := by
  refine .bind (guarded_peek 1) fun next => .ite (guarded_pure _) (.refuse ?_ rfl)
  exact .bind guarded_byte fun _ => guarded_pure _

private theorem guarded_readLookups (version : MessageVersion) : Guarded (readLookups version) := by
  cases version with
  | legacy => exact guarded_pure _
  | v0 =>
      refine .bind guarded_byte fun count => .backed ?_
      exact guarded_times TableLookup.guarded_read _

/-- A header that is refused is malformed input. -/
theorem malformed_of_validate (header : Header) (keys : Nat) (fault : LedgerError)
    (invalid : header.validate keys = .error fault) : fault.kind = .malformedInput := by
  obtain ⟨reason, rfl⟩ := exists_invalidHeader_of_validate invalid
  rfl

/-- **Reading a message** is guarded. -/
theorem guarded_read : Guarded read := by
  refine .bind guarded_readVersion fun version => .bind Header.guarded_read fun header => ?_
  refine .bind (guarded_readCount _ _) fun keyCount => ?_
  refine .bind (guarded_times (guarded_fixed _) _) fun keys => ?_
  refine .bind (guarded_ofExcept (malformed_of_validate header keyCount)) fun _ => ?_
  refine .bind (guarded_fixed _) fun blockhash => ?_
  refine .bind (guarded_readCount _ _) fun instructionCount => ?_
  refine .bind (guarded_times CompiledInstruction.guarded_read _) fun instructions => ?_
  exact .bind (guarded_readLookups version) fun lookups => guarded_pure _

end Message

namespace Transaction

/-- **Reading a transaction** is guarded. -/
theorem guarded_read : Guarded read := by
  refine .bind (guarded_readCount _ _) fun count => ?_
  refine .bind (guarded_times (guarded_fixed _) _) fun signatures => ?_
  exact .bind Message.guarded_read fun message => guarded_pure _

/-- **Messages and transactions stand up to any bytes.** Whatever comes is read or refused as
malformed, and what is accepted is refused with its end cut off and with more behind it. -/
theorem strict_deserialize :
    Strict Message.read Message.deserialize ∧ Strict Transaction.read Transaction.deserialize :=
  ⟨Message.guarded_read.strict Message.reads_read, guarded_read.strict reads_read⟩

end Transaction

end LedgerClient
