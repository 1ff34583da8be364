import LedgerClient.Message.Wire
import LedgerClient.Proofs.Outcome
import LedgerClient.Proofs.Wire.CompactLength

/-! # Messages are read back

The bytes of a message spell its parts one after the other
(`LedgerClient.Message.serialize_eq_ok_iff`), and reading a message takes these bytes
and no others (`LedgerClient.Message.reads_read`). So a message comes back from its
bytes (`LedgerClient.Message.deserialize_serialize`), and bytes that are read as a
message are the bytes of that message
(`LedgerClient.Message.serialize_of_deserialize`).
-/

namespace LedgerClient

open Cursor CompactLength
open Reader (SpellsEach)

variable {start reached : Cursor} {α : Type}

namespace Reader

/-- Bytes behind their number are read, whatever follows. -/
theorem readCount_take_eq_ok_iff {what : String} {next : List UInt8 → Reader α} {value : α} :
    (readCount what 1 >>= fun count => take count >>= next) start = .ok value reached ↔
      ∃ bytes middle, (∃ length, encode? bytes.length = .ok length ∧
        start.Takes (length ++ bytes) middle) ∧ next bytes middle = .ok value reached := by
  have size (values bytes : List UInt8) (same : bytes = values) :
      values.length * 1 ≤ bytes.length := by
    apply Nat.le_of_eq
    rw [same, Nat.mul_one]
  refine (readCount_bind_eq_ok_iff reads_take size fun _ => next).trans ⟨?_, ?_⟩
  · rintro ⟨_, middle, ⟨length, bytes, counted, rfl, taken⟩, rest⟩
    exact ⟨bytes, middle, ⟨length, counted, taken⟩, rest⟩
  · rintro ⟨bytes, middle, ⟨length, counted, taken⟩, rest⟩
    exact ⟨bytes, middle, ⟨length, bytes, counted, rfl, taken⟩, rest⟩

end Reader

namespace CompiledInstruction

private theorem encodeIndex_eq_ok_iff {index : UInt16} {byte : UInt8} :
    encodeIndex index = .ok byte ↔ index = byte.toUInt16 := by
  unfold encodeIndex
  split
  case isTrue small =>
    constructor
    · intro same
      cases same
      apply UInt16.toNat_inj.mp
      rw [UInt8.toNat_toUInt16, UInt16.toNat_toUInt8, Nat.mod_eq_of_lt small]
    · rintro rfl
      apply congrArg Except.ok
      apply UInt8.toNat_inj.mp
      rw [UInt16.toNat_toUInt8, UInt8.toNat_toUInt16, Nat.mod_eq_of_lt byte.toNat_lt]
  case isFalse large =>
    refine iff_of_false Outcome.throw_ne_ok ?_
    rintro rfl
    rw [UInt8.toNat_toUInt16] at large
    exact large byte.toNat_lt

/-- Indices fit in one byte each exactly when they are bytes. -/
theorem mapM_encodeIndex_eq_ok_iff {indices : List UInt16} {bytes : List UInt8} :
    indices.mapM encodeIndex = .ok bytes ↔ indices = bytes.map (·.toUInt16) := by
  simp only [Outcome.mapM_eq_ok_iff, encodeIndex_eq_ok_iff]
  rw [← List.forall₂_map_right_iff (f := fun byte : UInt8 => byte.toUInt16), List.forall₂_eq_eq_eq]

/-- The bytes of an instruction, part by part. -/
theorem encode_eq_ok_iff {instruction : CompiledInstruction} {bytes : List UInt8} :
    instruction.encode = .ok bytes ↔ ∃ program accounts accountCount dataCount,
      instruction.program = program.toUInt16 ∧
      instruction.accounts = accounts.map (·.toUInt16) ∧
      encode? accounts.length = .ok accountCount ∧
      encode? instruction.data.length = .ok dataCount ∧
      bytes = [program] ++ ((accountCount ++ accounts) ++ (dataCount ++ instruction.data)) := by
  simp only [encode, Outcome.bind_eq_ok_iff, Outcome.pure_eq_ok_iff, encodeIndex_eq_ok_iff,
    mapM_encodeIndex_eq_ok_iff]
  constructor
  · rintro ⟨program, named, accountCount, counted, accounts, listed, dataCount, sized, rfl⟩
    rw [listed, List.length_map] at counted
    refine ⟨program, accounts, accountCount, dataCount, named, listed, counted, sized, ?_⟩
    simp only [List.append_assoc, List.cons_append, List.nil_append]
  · rintro ⟨program, accounts, accountCount, dataCount, named, listed, counted, sized, rfl⟩
    refine ⟨program, named, accountCount, ?_, accounts, listed, dataCount, sized, ?_⟩
    · rwa [listed, List.length_map]
    · simp only [List.append_assoc, List.cons_append, List.nil_append]

/-- **Reading an instruction** takes its bytes. -/
theorem reads_read : read.Reads fun instruction bytes => instruction.encode = .ok bytes := by
  intro start instruction reached
  rw [read, Reader.bind_eq_ok_iff]
  simp only [Reader.readCount_take_eq_ok_iff, Reader.pure_eq_ok_iff, Reader.reads_byte _ _ _,
    encode_eq_ok_iff]
  constructor
  · rintro ⟨program, _, ⟨_, rfl, takenProgram⟩, accounts, _, ⟨accountCount, counted, takenAccounts⟩,
      data, _, ⟨dataCount, sized, takenData⟩, rfl, rfl⟩
    exact ⟨_, ⟨program, accounts, accountCount, dataCount, rfl, rfl, counted, sized, rfl⟩,
      takenProgram.append (takenAccounts.append takenData)⟩
  · rintro ⟨_, ⟨program, accounts, accountCount, dataCount, named, listed, counted, sized, rfl⟩,
      taken⟩
    obtain ⟨first, takenProgram, rest⟩ := takes_append_iff.mp taken
    obtain ⟨second, takenAccounts, takenData⟩ := takes_append_iff.mp rest
    refine ⟨program, first, ⟨_, rfl, takenProgram⟩, accounts, second,
      ⟨accountCount, counted, takenAccounts⟩, instruction.data, reached,
      ⟨dataCount, sized, takenData⟩, ?_, rfl⟩
    obtain ⟨_, _, _⟩ := instruction
    cases named
    cases listed
    rfl

/-- An instruction takes three bytes at least: its program and two lengths. -/
theorem minInstructionSize_le {instruction : CompiledInstruction} {bytes : List UInt8}
    (written : instruction.encode = .ok bytes) : Message.minInstructionSize ≤ bytes.length := by
  obtain ⟨program, accounts, accountCount, dataCount, _, _, counted, sized, rfl⟩ :=
    encode_eq_ok_iff.mp written
  have first := length_pos_of_encode? counted
  have second := length_pos_of_encode? sized
  simp only [List.length_append, List.length_singleton, Message.minInstructionSize]
  omega

end CompiledInstruction

namespace TableLookup

/-- The bytes of a lookup, part by part. -/
theorem encode_eq_ok_iff {lookup : TableLookup} {bytes : List UInt8} :
    lookup.encode = .ok bytes ↔ ∃ writableCount readonlyCount,
      encode? lookup.writable.length = .ok writableCount ∧
      encode? lookup.readonly.length = .ok readonlyCount ∧
      bytes = lookup.table.toList ++
        ((writableCount ++ lookup.writable) ++ (readonlyCount ++ lookup.readonly)) := by
  simp only [encode, Outcome.bind_eq_ok_iff, Outcome.pure_eq_ok_iff]
  constructor
  · rintro ⟨writableCount, counted, readonlyCount, sized, rfl⟩
    refine ⟨writableCount, readonlyCount, counted, sized, ?_⟩
    simp only [List.append_assoc]
  · rintro ⟨writableCount, readonlyCount, counted, sized, rfl⟩
    refine ⟨writableCount, counted, readonlyCount, sized, ?_⟩
    simp only [List.append_assoc]

/-- **Reading a lookup** takes its bytes. -/
theorem reads_read : read.Reads fun lookup bytes => lookup.encode = .ok bytes := by
  intro start lookup reached
  rw [read, Reader.bind_eq_ok_iff]
  simp only [Reader.readCount_take_eq_ok_iff, Reader.pure_eq_ok_iff, Reader.reads_fixed _ _ _ _,
    encode_eq_ok_iff]
  constructor
  · rintro ⟨table, _, ⟨_, rfl, takenTable⟩, writable, _, ⟨writableCount, counted, takenWritable⟩,
      readonly, _, ⟨readonlyCount, sized, takenReadonly⟩, rfl, rfl⟩
    exact ⟨_, ⟨writableCount, readonlyCount, counted, sized, rfl⟩,
      takenTable.append (takenWritable.append takenReadonly)⟩
  · rintro ⟨_, ⟨writableCount, readonlyCount, counted, sized, rfl⟩, taken⟩
    obtain ⟨first, takenTable, rest⟩ := takes_append_iff.mp taken
    obtain ⟨second, takenWritable, takenReadonly⟩ := takes_append_iff.mp rest
    exact ⟨lookup.table.bytes, first, ⟨_, rfl, takenTable⟩, lookup.writable, second,
      ⟨writableCount, counted, takenWritable⟩, lookup.readonly, reached,
      ⟨readonlyCount, sized, takenReadonly⟩, rfl, rfl⟩

/-- A lookup takes 34 bytes at least: its table and two lengths. -/
theorem minLookupSize_le {lookup : TableLookup} {bytes : List UInt8}
    (written : lookup.encode = .ok bytes) : Message.minLookupSize ≤ bytes.length := by
  obtain ⟨writableCount, readonlyCount, counted, sized, rfl⟩ := encode_eq_ok_iff.mp written
  have first := length_pos_of_encode? counted
  have second := length_pos_of_encode? sized
  have width : lookup.table.toList.length = 32 := lookup.table.length_toList
  simp only [List.length_append, width, Message.minLookupSize]
  omega

end TableLookup

/-- **Which headers are valid.** -/
theorem Header.validate_eq_ok_iff {header : Header} {keys : Nat} : header.validate keys = .ok () ↔
    header.required.toNat ≤ keys ∧ header.readonlySigned.toNat < header.required.toNat ∧
      header.readonlyUnsigned.toNat ≤ keys - header.required.toNat := by
  simp only [← UInt8.lt_iff_toNat_lt, ← Nat.not_lt, ← UInt8.not_le]
  unfold validate
  dsimp only
  split
  case isTrue few => simp [few]
  split
  case isTrue readonly => simp [readonly]
  split
  case isTrue many => simp [many]
  case isFalse enough writable fits => simp [enough, writable, fits]

namespace Message

variable {message : Message} {bytes : List UInt8}

/-- What stands in front of a header: the mark of the newer version, or nothing,
where the number of signers cannot be taken for that mark. -/
def SpellsVersion (version : MessageVersion) (header : Header) (bytes : List UInt8) : Prop :=
  match version with
  | .legacy => bytes = [] ∧ header.required.toNat ≤ maxLegacySigners
  | .v0 => bytes = [v0Mark]

/-- Lookups behind their number in one byte; a legacy message has none. -/
def SpellsLookups (version : MessageVersion) (lookups : List TableLookup) (bytes : List UInt8) :
    Prop :=
  match version with
  | .legacy => lookups = [] ∧ bytes = []
  | .v0 => lookups.length < 256 ∧ ∃ each,
      SpellsEach (fun lookup chunk => lookup.encode = .ok chunk) lookups each ∧
        bytes = [UInt8.ofNat lookups.length] ++ each

/-- The two parts of a message that depend on its version. -/
theorem encodeVersion_and_encodeLookups_iff {first last : List UInt8} :
    message.encodeVersion = .ok first ∧ message.encodeLookups = .ok last ↔
      SpellsVersion message.version message.header first ∧
        SpellsLookups message.version message.lookups last := by
  unfold encodeVersion encodeLookups SpellsVersion SpellsLookups
  cases message.version with
  | legacy =>
      simp only [Outcome.pure_eq_ok_iff]
      by_cases none : message.lookups = []
      · by_cases few : message.header.required.toNat ≤ maxLegacySigners
        · rw [if_neg (not_not_intro none), if_neg (Nat.not_lt.mpr few)]
          simp only [Except.ok.injEq, none, few, and_true, true_and, eq_comm]
        · rw [if_neg (not_not_intro none), if_pos (Nat.not_le.mp few)]
          simp only [reduceCtorEq, few, false_and, and_false]
      · rw [if_pos none]
        simp only [reduceCtorEq, none, false_and, and_false]
  | v0 =>
      simp only [Outcome.refuse_eq_ok_iff, Outcome.bind_eq_ok_iff, Outcome.pure_eq_ok_iff,
        Outcome.mapM_eq_ok_iff, Except.ok.injEq, Nat.not_le, SpellsEach]
      constructor
      · rintro ⟨rfl, few, chunks, spelled, rfl⟩
        exact ⟨rfl, few, _, ⟨chunks, spelled, rfl⟩, rfl⟩
      · rintro ⟨rfl, few, _, ⟨chunks, spelled, rfl⟩, rfl⟩
        exact ⟨rfl, few, chunks, spelled, rfl⟩

/-- **The bytes of a message, part by part.** -/
theorem serialize_eq_ok_iff : message.serialize = .ok bytes ↔
    ∃ mark keyCount instructionCount instructions lookups,
      SpellsVersion message.version message.header mark ∧
      encode? message.staticKeys.length = .ok keyCount ∧
      encode? message.instructions.length = .ok instructionCount ∧
      SpellsEach (fun instruction chunk => instruction.encode = .ok chunk) message.instructions
        instructions ∧
      SpellsLookups message.version message.lookups lookups ∧
      bytes = (mark ++ message.header.encode) ++
        ((keyCount ++ (message.staticKeys.map (·.toList)).flatten) ++ (message.blockhash.toList ++
          ((instructionCount ++ instructions) ++ lookups))) := by
  simp only [serialize, Outcome.bind_eq_ok_iff, Outcome.pure_eq_ok_iff, Outcome.mapM_eq_ok_iff]
  constructor
  · rintro ⟨mark, marked, keyCount, counted, instructionCount, sized, chunks, spelled, lookups,
      looked, rfl⟩
    obtain ⟨version, last⟩ := encodeVersion_and_encodeLookups_iff.mp ⟨marked, looked⟩
    refine ⟨mark, keyCount, instructionCount, _, lookups, version, counted, sized,
      ⟨chunks, spelled, rfl⟩, last, ?_⟩
    simp only [List.append_assoc]
  · rintro ⟨mark, keyCount, instructionCount, _, lookups, version, counted, sized,
      ⟨chunks, spelled, rfl⟩, last, rfl⟩
    obtain ⟨marked, looked⟩ := encodeVersion_and_encodeLookups_iff.mpr ⟨version, last⟩
    refine ⟨mark, marked, keyCount, counted, instructionCount, sized, chunks, spelled, lookups,
      looked, ?_⟩
    simp only [List.append_assoc]

/-- **Reading a header** takes its three bytes. -/
theorem reads_readHeader : Header.read.Reads fun header bytes => bytes = header.encode := by
  intro start header reached
  simp only [Header.read, Reader.bind_eq_ok_iff, Reader.pure_eq_ok_iff, Reader.reads_byte _ _ _]
  constructor
  · rintro ⟨required, _, ⟨_, rfl, first⟩, signed, _, ⟨_, rfl, second⟩, unsigned, _, ⟨_, rfl, third⟩,
      rfl, rfl⟩
    exact ⟨_, rfl, first.append (second.append third)⟩
  · rintro ⟨_, rfl, taken⟩
    have parts : start.Takes ([header.required] ++
        ([header.readonlySigned] ++ [header.readonlyUnsigned])) reached := taken
    obtain ⟨_, first, rest⟩ := takes_append_iff.mp parts
    obtain ⟨_, second, third⟩ := takes_append_iff.mp rest
    exact ⟨_, _, ⟨_, rfl, first⟩, _, _, ⟨_, rfl, second⟩, _, _, ⟨_, rfl, third⟩, rfl, rfl⟩

/-- The version is known from the first byte, which stays in place if it is the
header's. -/
theorem readVersion_eq_ok_iff {version : MessageVersion} :
    readVersion start = .ok version reached ↔
      match version with
      | .legacy => reached = start ∧ ∃ first rest, start.rest = first :: rest ∧ first < v0Mark
      | .v0 => start.Takes [v0Mark] reached := by
  rw [readVersion, Reader.bind_eq_ok_iff]
  simp only [Reader.peek_one_eq_ok_iff]
  constructor
  · rintro ⟨_, _, ⟨first, rest, split, rfl, rfl⟩, found⟩
    rw [List.headD_cons] at found
    by_cases low : first < v0Mark
    · rw [if_pos low, Reader.pure_eq_ok_iff] at found
      obtain ⟨rfl, rfl⟩ := found
      exact ⟨rfl, first, rest, split, low⟩
    · rw [if_neg low] at found
      simp only [Reader.refuse_eq_ok_iff, Reader.bind_eq_ok_iff, Reader.reads_byte _ _ _,
        Reader.pure_eq_ok_iff, not_not] at found
      obtain ⟨rfl, _, _, ⟨_, rfl, taken⟩, rfl, rfl⟩ := found
      have same := taken.1
      rw [split, List.singleton_append, List.cons.injEq] at same
      rw [same.1]
      exact taken
  · cases version with
    | legacy =>
        rintro ⟨rfl, first, rest, split, low⟩
        refine ⟨_, _, ⟨first, rest, split, rfl, rfl⟩, ?_⟩
        rw [List.headD_cons, if_pos low, Reader.pure_eq_ok_iff]
        exact ⟨rfl, rfl⟩
    | v0 =>
        intro taken
        refine ⟨_, _, ⟨v0Mark, reached.rest, taken.1, rfl, rfl⟩, ?_⟩
        rw [List.headD_cons, if_neg (by decide)]
        simp only [Reader.refuse_eq_ok_iff, Reader.bind_eq_ok_iff, Reader.reads_byte _ _ _,
          Reader.pure_eq_ok_iff]
        exact ⟨not_not_intro rfl, _, _, ⟨_, rfl, taken⟩, trivial, rfl⟩

/-- **Reading version and header**, whatever follows. -/
theorem readVersion_bind_of_takes (next : MessageVersion → Header → Reader α)
    {version : MessageVersion} {header : Header} {mark : List UInt8} {middle : Cursor}
    (marked : SpellsVersion version header mark)
    (taken : start.Takes (mark ++ header.encode) middle) :
    (readVersion >>= fun version => Header.read >>= next version) start =
      next version header middle := by
  obtain ⟨front, takenMark, takenHeader⟩ := takes_append_iff.mp taken
  have found : readVersion start = .ok version front := by
    refine readVersion_eq_ok_iff.mpr ?_
    cases version with
    | v0 =>
        cases marked
        exact takenMark
    | legacy =>
        obtain ⟨rfl, few⟩ := marked
        obtain rfl := takes_nil_iff.mp takenMark
        refine ⟨rfl, header.required, _, takenHeader.1, ?_⟩
        exact UInt8.lt_iff_toNat_lt.mpr (Nat.lt_succ_of_le few)
  rw [Reader.bind_of_ok found,
    Reader.bind_of_ok ((reads_readHeader _ _ _).mpr ⟨_, rfl, takenHeader⟩)]

private theorem readVersion_bind_eq_ok_iff (next : MessageVersion → Header → Reader α) {value : α} :
    (readVersion >>= fun version => Header.read >>= next version) start = .ok value reached ↔
      ∃ version header middle, (∃ mark, SpellsVersion version header mark ∧
        start.Takes (mark ++ header.encode) middle) ∧
          next version header middle = .ok value reached := by
  constructor
  · intro whole
    obtain ⟨version, front, found, rest⟩ := Reader.bind_eq_ok_iff.mp whole
    obtain ⟨header, middle, read, rest⟩ := Reader.bind_eq_ok_iff.mp rest
    obtain ⟨_, rfl, takenHeader⟩ := (reads_readHeader _ _ _).mp read
    rw [readVersion_eq_ok_iff] at found
    refine ⟨version, header, middle, ?_, rest⟩
    cases version with
    | v0 => exact ⟨_, rfl, found.append takenHeader⟩
    | legacy =>
        obtain ⟨rfl, first, _, split, low⟩ := found
        have same := takenHeader.1
        rw [split, Header.encode, List.cons_append, List.cons.injEq] at same
        rw [same.1] at low
        exact ⟨[], ⟨rfl, Nat.le_of_lt_succ (UInt8.lt_iff_toNat_lt.mp low)⟩, takenHeader⟩
  · rintro ⟨version, header, middle, ⟨mark, marked, taken⟩, rest⟩
    rw [readVersion_bind_of_takes next marked taken]
    exact rest

/-- **Reading lookups** takes their bytes. -/
theorem reads_readLookups (version : MessageVersion) :
    (readLookups version).Reads (SpellsLookups version) := by
  intro start lookups reached
  cases version with
  | legacy =>
      simp only [readLookups, Reader.pure_eq_ok_iff, SpellsLookups]
      constructor
      · rintro ⟨rfl, rfl⟩
        exact ⟨[], ⟨rfl, rfl⟩, takes_nil_iff.mpr rfl⟩
      · rintro ⟨_, ⟨rfl, rfl⟩, taken⟩
        exact ⟨rfl, takes_nil_iff.mp taken⟩
  | v0 =>
      simp only [readLookups, Reader.bind_eq_ok_iff, Reader.refuse_eq_ok_iff,
        Reader.remaining_eq_ok_iff, Reader.reads_byte _ _ _,
        Reader.reads_times TableLookup.reads_read _ _ _ _, SpellsLookups]
      constructor
      · rintro ⟨count, middle, ⟨_, rfl, first⟩, _, _, ⟨rfl, rfl⟩, _, each, ⟨length, spelled⟩, rest⟩
        refine ⟨_, ⟨?_, each, spelled, rfl⟩, ?_⟩
        · rw [length]
          exact count.toNat_lt
        · rw [length, UInt8.ofNat_toNat]
          exact first.append rest
      · rintro ⟨_, ⟨few, each, spelled, rfl⟩, taken⟩
        obtain ⟨middle, first, rest⟩ := takes_append_iff.mp taken
        have count : (UInt8.ofNat lookups.length).toNat = lookups.length :=
          UInt8.toNat_ofNat_of_lt' few
        refine ⟨_, middle, ⟨_, rfl, first⟩, _, _, ⟨rfl, rfl⟩, ?_, each, ⟨count.symm, spelled⟩, rest⟩
        have enough := spelled.length_mul_le fun _ _ => TableLookup.minLookupSize_le
        rw [count, rest.length_rest]
        omega

/-- **A message as it is read.** It has no tables and is not resolved, so all its
keys are its own, and its counts fit them. -/
structure Readable (message : Message) : Prop where
  tables : message.tables = none
  unresolved : message.isResolved = false
  header : message.header.validate message.keys.length = .ok ()

/-- All keys of a message that is not resolved are its own. -/
theorem staticKeys_of_unresolved (unresolved : message.isResolved = false) :
    message.staticKeys = message.keys := by
  rw [staticKeys, staticCount, unresolved]
  exact List.take_length

private theorem length_keys (keys : List (Bytes 32)) (bytes : List UInt8)
    (spelled : bytes = (keys.map (·.toList)).flatten) : keys.length * keySize ≤ bytes.length :=
  Reader.length_mul_le_of_fixed keys bytes spelled

private theorem readKeys_of_takes (next : Nat → List (Bytes 32) → Reader α) {keys : List PublicKey}
    {keyCount : List UInt8} {middle : Cursor} (counted : encode? keys.length = .ok keyCount)
    (taken : start.Takes (keyCount ++ (keys.map (·.toList)).flatten) middle) :
    (readCount "account key" keySize >>= fun count =>
        Reader.times count (Reader.fixed 32) >>= next count) start =
      next keys.length (keys.map (·.bytes)) middle := by
  have same : (keys.map (·.toList)).flatten = ((keys.map (·.bytes)).map (·.toList)).flatten := by
    rw [List.map_map]
    rfl
  rw [← List.length_map (·.bytes)] at counted ⊢
  exact readCount_bind_of_takes (Reader.reads_times_fixed 32) length_keys next counted same taken

private theorem length_instructions (instructions : List CompiledInstruction) (bytes : List UInt8)
    (spelled : SpellsEach (fun instruction chunk => instruction.encode = .ok chunk) instructions
      bytes) : instructions.length * minInstructionSize ≤ bytes.length :=
  spelled.length_mul_le fun _ _ => CompiledInstruction.minInstructionSize_le

/-- **Reading a message** takes its bytes. -/
theorem reads_read : read.Reads fun message bytes =>
    message.Readable ∧ message.serialize = .ok bytes := by
  intro start message reached
  constructor
  · intro whole
    rw [read, readVersion_bind_eq_ok_iff] at whole
    obtain ⟨version, header, first, ⟨mark, marked, takenHead⟩, whole⟩ := whole
    rw [readCount_bind_eq_ok_iff (Reader.reads_times_fixed 32) length_keys] at whole
    obtain ⟨keys, second, ⟨keyCount, _, counted, rfl, takenKeys⟩, whole⟩ := whole
    obtain ⟨_, _, checked, body⟩ := Reader.bind_eq_ok_iff.mp whole
    obtain ⟨valid, rfl⟩ := Reader.ofExcept_eq_ok_iff.mp checked
    obtain ⟨blockhash, third, hashed, rest⟩ := Reader.bind_eq_ok_iff.mp body
    obtain ⟨_, rfl, takenHash⟩ := (Reader.reads_fixed 32 _ _ _).mp hashed
    rw [readCount_bind_eq_ok_iff (Reader.reads_times CompiledInstruction.reads_read)
      length_instructions] at rest
    obtain ⟨instructions, fourth, ⟨instructionCount, each, sized, spelled, takenInstructions⟩,
      rest⟩ := rest
    obtain ⟨lookups, _, found, done⟩ := Reader.bind_eq_ok_iff.mp rest
    obtain ⟨looked, last, takenLookups⟩ := (reads_readLookups version _ _ _).mp found
    obtain ⟨rfl, rfl⟩ := Reader.pure_eq_ok_iff.mp done
    have taken := takenHead.append
      (takenKeys.append (takenHash.append (takenInstructions.append takenLookups)))
    have readable : (ofParts version header (keys.map (⟨·⟩)) ⟨blockhash⟩ instructions
        lookups).Readable := ⟨rfl, rfl, by rwa [ofParts, List.length_map]⟩
    refine ⟨_, ⟨readable, ?_⟩, taken⟩
    rw [serialize_eq_ok_iff, staticKeys_of_unresolved readable.unresolved]
    refine ⟨mark, keyCount, instructionCount, each, looked, marked, ?_, sized, spelled, last, ?_⟩
    · rwa [ofParts, List.length_map]
    · simp only [ofParts, List.map_map, List.append_assoc]
      rfl
  · rintro ⟨bytes, ⟨readable, written⟩, taken⟩
    obtain ⟨mark, keyCount, instructionCount, each, looked, marked, counted, sized, spelled, last,
      rfl⟩ := serialize_eq_ok_iff.mp written
    rw [staticKeys_of_unresolved readable.unresolved] at counted taken
    obtain ⟨first, takenHead, taken⟩ := takes_append_iff.mp taken
    obtain ⟨second, takenKeys, taken⟩ := takes_append_iff.mp taken
    obtain ⟨third, takenHash, taken⟩ := takes_append_iff.mp taken
    obtain ⟨fourth, takenInstructions, takenLookups⟩ := takes_append_iff.mp taken
    rw [read, readVersion_bind_of_takes _ marked takenHead, readKeys_of_takes _ counted takenKeys,
      Reader.bind_of_ok (Reader.ofExcept_eq_ok_iff.mpr ⟨readable.header, rfl⟩),
      Reader.bind_of_ok ((Reader.reads_fixed 32 _ _ _).mpr ⟨_, rfl, takenHash⟩),
      readCount_bind_of_takes (Reader.reads_times CompiledInstruction.reads_read)
        length_instructions _ sized spelled takenInstructions,
      Reader.bind_of_ok ((reads_readLookups _ _ _ _).mpr ⟨_, last, takenLookups⟩)]
    refine Reader.pure_eq_ok_iff.mpr ⟨?_, rfl⟩
    obtain ⟨version, header, keys, blockhash, instructions, lookups, tables, isResolved⟩ := message
    obtain ⟨noTables, unresolved, _⟩ := readable
    cases noTables
    cases unresolved
    have same : (keys.map (·.bytes)).map (fun bytes => (⟨bytes⟩ : PublicKey)) = keys := by
      rw [List.map_map]
      exact List.map_id keys
    rw [ofParts, same]

/-- A message whose counts do not fit its own keys is refused where they are read. -/
private theorem read_of_invalid {fault : LedgerError} (written : message.serialize = .ok bytes)
    (invalid : message.header.validate message.staticKeys.length = .error fault)
    (taken : start.Takes bytes reached) : ∃ place, read start = .error fault place := by
  obtain ⟨mark, keyCount, _, _, _, marked, counted, _, _, _, rfl⟩ := serialize_eq_ok_iff.mp written
  obtain ⟨first, takenHead, taken⟩ := takes_append_iff.mp taken
  obtain ⟨second, takenKeys, _⟩ := takes_append_iff.mp taken
  refine ⟨second, ?_⟩
  rw [read, readVersion_bind_of_takes _ marked takenHead, readKeys_of_takes _ counted takenKeys,
    Reader.bind_of_error (Reader.ofExcept_of_error invalid)]

/-- Every fault of a header's counts is an invalid header. -/
theorem exists_invalidHeader_of_validate {header : Header} {keys : Nat} {fault : LedgerError}
    (invalid : header.validate keys = .error fault) : ∃ reason, fault = .invalidHeader reason := by
  simp only [Header.validate] at invalid
  split at invalid
  case isTrue few =>
    cases invalid
    exact ⟨_, rfl⟩
  case isFalse enough =>
    split at invalid
    case isTrue readonly =>
      cases invalid
      exact ⟨_, rfl⟩
    case isFalse writable =>
      split at invalid
      case isTrue many =>
        cases invalid
        exact ⟨_, rfl⟩
      case isFalse fits => cases invalid

/-- **Which bytes are read as a message.** They are the bytes of the message, which
is as messages are read. -/
theorem deserialize_eq_ok_iff :
    deserialize bytes = .ok message ↔ message.Readable ∧ message.serialize = .ok bytes :=
  reads_read.run_finish_eq_ok_iff

/-- A message as its bytes carry it: its own keys, and nothing attached. -/
def carried (message : Message) : Message :=
  { message with keys := message.staticKeys, tables := none, isResolved := false }

/-- A message that has no tables and is not resolved is carried as it is. -/
theorem carried_eq_self (tables : message.tables = none)
    (unresolved : message.isResolved = false) : message.carried = message := by
  rw [carried, staticKeys_of_unresolved unresolved, ← tables, ← unresolved]

/-- What is carried spells the same bytes. -/
theorem serialize_carried : message.carried.serialize = message.serialize := by
  have same : message.carried.staticKeys = message.staticKeys := staticKeys_of_unresolved rfl
  rw [serialize, serialize, same]
  rfl

/-- **A message comes back from its bytes** without what they do not carry: looked-up
keys, table contents and the mark of being resolved. If its counts do not fit its own
keys, its bytes are refused with the fault of the counts. -/
theorem deserialize_serialize (written : message.serialize = .ok bytes) :
    (message.header.validate message.staticKeys.length = .ok () →
      deserialize bytes = .ok message.carried) ∧
    (∀ fault, message.header.validate message.staticKeys.length = .error fault →
      deserialize bytes = .error fault ∧ ∃ reason, fault = .invalidHeader reason) ∧
    (message.tables = none → message.isResolved = false → message.carried = message) := by
  refine ⟨?_, ?_, carried_eq_self⟩
  · intro valid
    exact deserialize_eq_ok_iff.mpr ⟨⟨rfl, rfl, valid⟩, serialize_carried.trans written⟩
  · intro fault invalid
    have whole : (Cursor.ofList bytes).Takes bytes ((Cursor.ofList bytes).advance bytes.length) :=
      takes_advance (List.prefix_refl _)
    obtain ⟨place, failed⟩ := read_of_invalid written invalid whole
    exact ⟨Reader.run_finish_of_error failed, exists_invalidHeader_of_validate invalid⟩

/-- A resolved message, whose last key comes from a table. -/
def looked : Message where
  version := .v0
  header := ⟨1, 0, 0⟩
  keys := [⟨.replicate 32 1⟩, ⟨.replicate 32 3⟩]
  blockhash := .zero
  instructions := [⟨0, [1, 0, 1], [7]⟩]
  lookups := [⟨⟨.replicate 32 9⟩, [4], []⟩]
  tables := some .empty
  isResolved := true

/-- The bytes of that message, without the key from the table. -/
def lookedBytes : List UInt8 :=
  [128, 1, 0, 0, 1] ++ List.replicate 32 1 ++ List.replicate 32 0 ++
    [1, 0, 3, 1, 0, 1, 1, 7, 1] ++ List.replicate 32 9 ++ [1, 4, 0]

/-- A message with a lookup. -/
theorem deserialize_lookedBytes :
    looked.serialize = .ok lookedBytes ∧ deserialize lookedBytes = .ok looked.carried :=
  ⟨rfl, (deserialize_serialize rfl).1 rfl⟩

/-- **Bytes that are read as a message are its bytes.** So no other bytes are read as
the same message. -/
theorem serialize_of_deserialize (found : deserialize bytes = .ok message) :
    message.serialize = .ok bytes ∧ ∀ other, deserialize other = .ok message → other = bytes := by
  have written := (deserialize_eq_ok_iff.mp found).2
  refine ⟨written, fun other again => ?_⟩
  have rewritten := (deserialize_eq_ok_iff.mp again).2
  exact Except.ok.inj (rewritten.symm.trans written)

/-- No other bytes are read as the message with a lookup. -/
theorem serialize_looked_carried : deserialize lookedBytes = .ok looked.carried ∧
    looked.carried.serialize = .ok lookedBytes ∧
    ∀ other, deserialize other = .ok looked.carried → other = lookedBytes := by
  have found : deserialize lookedBytes = .ok looked.carried := by rfl
  exact ⟨found, serialize_of_deserialize found⟩

end Message

end LedgerClient
