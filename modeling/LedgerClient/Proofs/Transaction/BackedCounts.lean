import LedgerClient.Proofs.Transaction.Strict
import LedgerClient.Proofs.Wire.Noted

/-! # Counts are backed by what is left

Messages and transactions are read by readers that may note their counts
(`LedgerClient.Message.readNoted`, `LedgerClient.Transaction.readNoted`). Each count that is
accepted on the way is backed by the rest of the buffer, also where reading fails later, and what
is noted on the way to a value are all of its counts
(`LedgerClient.Transaction.backedCounts_deserialize`).
-/

namespace LedgerClient

open CompactLength NotedReader

/-- Lists behind their length are checked against what is left. -/
theorem CompactLength.checks_readCount (what : String) (part : Part) :
    Checks part (readCount what part.size) :=
  fun _ _ _ accepted => (readCount_eq_ok_iff.mp accepted).2

namespace NotedReader

/-- Bytes behind their number. -/
def bytes (part : Part) (what : String) : NotedReader (List UInt8) :=
  counted part (readCount what 1) fun count => plain (Reader.take count)

/-- A count of bytes is noted with the bytes that it promises. -/
theorem tracks_bytes (part : Part) (what : String) (single : part.size = 1) :
    Tracks (bytes part what) (readCount what 1 >>= Reader.take) fun values tally =>
      tally = [(part, values.length)] := by
  have checks := CompactLength.checks_readCount what part
  rw [single] at checks
  have ensured : Ensured part Reader.take := by
    intro _ count place enough
    rw [single, Nat.mul_one] at enough
    exact Reader.exists_take enough
  refine (tracks_counted (guarded_readCount what 1) checks ensured fun count =>
    tracks_plain (Reader.guarded_take count)).congr ?_
  rintro values _ ⟨count, _, ⟨⟨start, reached, taken⟩, rfl⟩, rfl⟩
  obtain ⟨_, ⟨length, _⟩, _⟩ := (Reader.reads_take count _ _ _).mp taken
  rw [length]

/-- Fields of one width behind their number, and the number. -/
def fields (part : Part) (what : String) (width : Nat) : NotedReader (Nat × List (Bytes width)) :=
  counted part (readCount what width) fun count => do
    let fields ← plain (Reader.times count (Reader.fixed width))
    return (count, fields)

/-- A count of fields of one width is noted with the fields that it promises. -/
theorem tracks_fields (part : Part) (what : String) (width : Nat) (size : part.size = width) :
    Tracks (fields part what width)
      (readCount what width >>= fun count =>
        Reader.times count (Reader.fixed width) >>= fun fields => pure (count, fields))
      fun value tally => tally = [(part, value.2.length)] := by
  subst size
  have ensured : Ensured part fun count =>
      Reader.times count (Reader.fixed part.size) >>= fun fields => pure (count, fields) := by
    intro _ count place enough
    obtain ⟨fields, reached, found⟩ := Reader.exists_times_fixed enough
    exact ⟨_, reached, Reader.bind_of_ok found⟩
  have each (count : Nat) :=
    (tracks_plain (Reader.guarded_times (Reader.guarded_fixed part.size) count)).bind
      fun fields => tracks_pure (count, fields)
  refine (tracks_counted (guarded_readCount what part.size) (checks_readCount what part) ensured
    each).congr ?_
  rintro _ _ ⟨count, _, ⟨fields, _, _, ⟨⟨_, _, found⟩, rfl⟩, ⟨rfl, rfl⟩, rfl⟩, rfl⟩
  obtain ⟨_, ⟨length, _⟩, _⟩ := (Reader.reads_times_fixed part.size count _ _ _).mp found
  rw [length]
  rfl

end NotedReader

namespace CompiledInstruction

/-- The counts of an instruction. -/
def counts (instruction : CompiledInstruction) : List (Part × Nat) :=
  [(.accounts, instruction.accounts.length), (.data, instruction.data.length)]

/-- Reading an instruction, with notes of its counts. -/
def readNoted : NotedReader CompiledInstruction := do
  let program ← plain Reader.byte
  let accounts ← NotedReader.bytes .accounts "instruction account"
  let data ← NotedReader.bytes .data "instruction data byte"
  return ⟨program.toUInt16, accounts.map (·.toUInt16), data⟩

private theorem tracks_readNoted : Tracks readNoted read fun instruction tally =>
    tally = instruction.counts := by
  have whole : Tracks readNoted _ fun instruction tally => [] ++ tally = counts instruction :=
    .plainNext Reader.guarded_byte fun program =>
    .next (tracks_bytes .accounts "instruction account" rfl) fun accounts =>
    .next (tracks_bytes .data "instruction data byte" rfl) fun data =>
    .last (by simp [counts])
  simp only [bind_assoc] at whole
  exact whole

end CompiledInstruction

namespace TableLookup

/-- The counts of a lookup. -/
def counts (lookup : TableLookup) : List (Part × Nat) :=
  [(.writable, lookup.writable.length), (.readonly, lookup.readonly.length)]

/-- Reading a lookup, with notes of its counts. -/
def readNoted : NotedReader TableLookup := do
  let table ← plain (Reader.fixed 32)
  let writable ← NotedReader.bytes .writable "writable index"
  let readonly ← NotedReader.bytes .readonly "readonly index"
  return ⟨⟨table⟩, writable, readonly⟩

private theorem tracks_readNoted :
    Tracks readNoted read fun lookup tally => tally = lookup.counts := by
  have whole : Tracks readNoted _ fun lookup tally => [] ++ tally = counts lookup :=
    .plainNext (Reader.guarded_fixed 32) fun table =>
    .next (tracks_bytes .writable "writable index" rfl) fun writable =>
    .next (tracks_bytes .readonly "readonly index" rfl) fun readonly =>
    .last (by simp [counts])
  simp only [bind_assoc] at whole
  exact whole

end TableLookup

namespace Message

/-- The counts of a message, each before those of its elements. -/
def counts (message : Message) : List (Part × Nat) :=
  (.keys, message.keys.length) :: (.instructions, message.instructions.length) ::
    message.instructions.flatMap CompiledInstruction.counts ++
    match message.version with
    | .legacy => []
    | .v0 => (.lookups, message.lookups.length) :: message.lookups.flatMap TableLookup.counts

/-- The number of lookups, in one byte, checked against what is left. -/
def readLookupCount : Reader Nat := do
  let count := (← Reader.byte).toNat
  let remaining ← Reader.remaining
  if remaining < count * minLookupSize then
    throw (.countOverflow "address table lookup" count remaining)
  return count

private theorem checks_readLookupCount : Checks .lookups readLookupCount := by
  intro start count reached accepted
  simp only [readLookupCount, Reader.bind_eq_ok_iff, Reader.refuse_eq_ok_iff,
    Reader.remaining_eq_ok_iff, Reader.pure_eq_ok_iff] at accepted
  obtain ⟨_, _, _, _, _, ⟨rfl, rfl⟩, enough, rfl, rfl⟩ := accepted
  exact Nat.not_lt.mp enough

private theorem guarded_readLookupCount : Reader.Guarded readLookupCount :=
  .bind Reader.guarded_byte fun _ => .backed (Reader.guarded_pure _)

private theorem readLookups_v0 : readLookups .v0 =
    readLookupCount >>= fun count => Reader.times count TableLookup.read := by
  simp only [readLookups, readLookupCount, bind_assoc]
  refine bind_congr fun byte => bind_congr fun remaining => ?_
  split
  case isTrue => rfl
  case isFalse => rfl

/-- Reading the lookups of a version, with notes of their counts. -/
def readLookupsNoted : MessageVersion → NotedReader (List TableLookup)
  | .legacy => return []
  | .v0 => counted .lookups readLookupCount (NotedReader.times TableLookup.readNoted)

private theorem tracks_readLookupsNoted (version : MessageVersion) :
    Tracks (readLookupsNoted version) (readLookups version) fun lookups tally =>
      tally = match version with
        | .legacy => []
        | .v0 => (.lookups, lookups.length) :: lookups.flatMap TableLookup.counts := by
  cases version with
  | legacy => exact (tracks_pure []).congr fun _ _ noted => noted.2
  | v0 =>
      rw [readLookups_v0]
      exact TableLookup.tracks_readNoted.listed guarded_readLookupCount checks_readLookupCount rfl

/-- Read a message and note its counts, each as soon as it is accepted. -/
def readNoted : NotedReader Message := do
  let version ← plain readVersion
  let header ← plain Header.read
  let keys ← fields .keys "account key" 32
  plain (Reader.ofExcept (header.validate keys.1))
  let blockhash ← plain (Reader.fixed 32)
  let instructions ← counted .instructions (readCount "instruction" minInstructionSize)
    (NotedReader.times CompiledInstruction.readNoted)
  let lookups ← readLookupsNoted version
  return ofParts version header (keys.2.map (⟨·⟩)) ⟨blockhash⟩ instructions lookups

private theorem tracks_readNoted : Tracks readNoted read fun message tally =>
    tally = message.counts := by
  have instructions := CompiledInstruction.tracks_readNoted.listed
    (guarded_readCount "instruction" minInstructionSize) (checks_readCount _ .instructions) rfl
  have whole : Tracks readNoted _ fun message tally => [] ++ tally = counts message :=
    .plainNext guarded_readVersion fun version =>
    .plainNext Header.guarded_read fun header =>
    .next (tracks_fields .keys "account key" 32 rfl) fun keys =>
    .plainNext (Reader.guarded_ofExcept (malformed_of_validate header keys.1)) fun _ =>
    .plainNext (Reader.guarded_fixed 32) fun blockhash =>
    .next instructions fun instructions =>
    .next (tracks_readLookupsNoted version) fun lookups =>
    .last (by simp [counts, ofParts])
  simp only [bind_assoc, pure_bind] at whole
  exact whole

end Message

namespace Transaction

/-- The counts of a transaction, each before those of its elements. -/
def counts (transaction : Transaction) : List (Part × Nat) :=
  (.signatures, transaction.signatures.length) :: transaction.message.counts

/-- Reading a transaction, with notes of its counts. -/
def readNoted : NotedReader Transaction := do
  let signatures ← fields .signatures "signature" 64
  let message ← Message.readNoted
  return ⟨signatures.2.map (⟨·⟩), message⟩

private theorem tracks_readNoted : Tracks readNoted read fun transaction tally =>
    tally = transaction.counts := by
  have whole : Tracks readNoted _ fun transaction tally => [] ++ tally = counts transaction :=
    .next (tracks_fields .signatures "signature" 64 rfl) fun signatures =>
    .next Message.tracks_readNoted fun message =>
    .last (by simp [counts])
  simp only [bind_assoc, pure_bind] at whole
  exact whole

end Transaction

/-- **A format whose counts are backed**, as a reader that notes them shows. -/
structure BackedCounts {α : Type} (noted : NotedReader α) (counts : α → List (Part × Nat))
    (deserialize : List UInt8 → Except LedgerError α) : Prop where
  /-- What the noted reader answers is what is deserialized. -/
  deserialized : ∀ bytes, deserialize bytes = Reader.run (do
    let value ← noted.erased
    Reader.finish
    return value) bytes
  /-- Whatever the bytes, each count that is accepted on the way is backed, also on the way to a
  refusal. -/
  backed : ∀ bytes, ∀ note ∈ (noted (Cursor.ofList bytes)).1, note.Backed bytes
  /-- No count of a value that is accepted goes unnoted. -/
  entries : ∀ bytes value, deserialize bytes = .ok value →
    (noted (Cursor.ofList bytes)).1.map Acceptance.entry = counts value

/-- **Every count that a tracking reader accepts is backed by bytes.** -/
theorem NotedReader.Tracks.backedCounts {α : Type} {noted : NotedReader α} {read : Reader α}
    {counts : α → List (Part × Nat)}
    (tracks : Tracks noted read fun value tally => tally = counts value) :
    BackedCounts noted counts (Reader.run (do
      let value ← read
      Reader.finish
      return value)) where
  deserialized bytes := by rw [tracks.erases]
  backed bytes := tracks.backed _ bytes (Cursor.inBuffer_ofList bytes)
  entries bytes value accepted := by
    obtain ⟨_, whole⟩ := Reader.run_eq_ok_iff.mp accepted
    obtain ⟨found, reached, done, rest⟩ := Reader.bind_eq_ok_iff.mp whole
    obtain ⟨_, _, _, same⟩ := Reader.bind_eq_ok_iff.mp rest
    rw [(Reader.pure_eq_ok_iff.mp same).1]
    exact tracks.tallied _ found reached done

/-- **Accepted counts are backed by the input**, in messages and in transactions. -/
theorem Transaction.backedCounts_deserialize :
    BackedCounts Message.readNoted Message.counts Message.deserialize ∧
      BackedCounts readNoted counts deserialize :=
  ⟨Message.tracks_readNoted.backedCounts, tracks_readNoted.backedCounts⟩

end LedgerClient
