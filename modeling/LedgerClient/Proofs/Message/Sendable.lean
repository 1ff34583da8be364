import LedgerClient.Proofs.Message.Compile
import LedgerClient.Proofs.Message.Wire

/-! # Compiled messages can be sent

The limits of compiling and those of writing are checked in different places. Every key
that comes from a table takes a place among the 256, and the fee payer has one of its own,
so lookups are fewer than 256 (`LedgerClient.Layout.Places.length_lookups_lt`), and the
counts of the header fit the keys (`LedgerClient.Message.Follows.validate_header`). What is
left to go wrong is a list whose length cannot be written
(`LedgerClient.Message.sendable_of_compile`).
-/

namespace LedgerClient

open CompactLength (maxValue)
open Outcome (FaultsIn)

/-- Some list in the instructions is too long for its length to be written. -/
def Overlong (instructions : List Instruction) : Prop :=
  maxValue < instructions.length ∨ ∃ instruction ∈ instructions,
    maxValue < instruction.accounts.length ∨
      ∃ data, instruction.data = .ok data ∧ maxValue < data.length

/-- A fault of a length that cannot be written. -/
def IsLengthOverflow (fault : LedgerError) : Prop :=
  ∃ length, maxValue < length ∧ fault = .lengthOverflow length

namespace CompactLength

variable {length : Nat}

/-- A length that fits is spelled. -/
theorem exists_encode? (fits : length ≤ maxValue) : ∃ bytes, encode? length = .ok bytes :=
  ⟨_, encode?_eq_ok_iff.mpr ⟨fits, rfl⟩⟩

private theorem faultsIn_encode? : FaultsIn IsLengthOverflow (encode? length) := by
  rintro fault failed
  unfold encode? at failed
  split at failed
  case isTrue => cases failed
  case isFalse large =>
    cases failed
    exact ⟨length, Nat.lt_of_not_le large, rfl⟩

end CompactLength

open CompactLength (exists_encode? faultsIn_encode?)

namespace Layout.Places

variable {layout : Layout} {feePayer : PublicKey} {instructions : List Instruction}
  (sound : layout.Places feePayer instructions)

include sound

/-- **Lookups are fewer than keys**: each takes a key from its table, and the fee payer has
a place of its own. -/
theorem length_lookups_lt : layout.lookups.length < layout.keys.length := by
  have gives : ∀ entry ∈ layout.tables.zipIdx.filter fun entry => layout.isUsed entry.2,
      0 < ((layout.taken entry.2 true).map Prod.fst).length +
        ((layout.taken entry.2 false).map Prod.fst).length := by
    intro entry member
    have used := List.of_mem_filter member
    rw [isUsed, Bool.not_eq_true', Bool.and_eq_false_iff, List.isEmpty_eq_false_iff,
      List.isEmpty_eq_false_iff, ← List.length_pos_iff, ← List.length_pos_iff] at used
    rw [List.length_map, List.length_map]
    omega
  have taken := Sequence.length_le_of_gives _ _ gives
  rw [flatten_used, flatten_used] at taken
  obtain ⟨rest, statics⟩ := sound.exists_statics
  have parts : layout.keys = layout.statics.map AccountMeta.key ++
      (layout.takenKeys true ++ layout.takenKeys false) := List.append_assoc _ _ _
  rw [lookups_eq, List.length_map, parts, List.length_append, List.length_append, statics,
    List.map_cons, List.length_cons]
  omega

private theorem length_taken_le (table : Nat) (isWritable : Bool) :
    (layout.taken table isWritable).length ≤ layout.keys.length := by
  rw [sound.perm_keys.length_eq, List.length_map]
  exact List.length_filterMap_le _ _

end Layout.Places

namespace CompiledInstruction

variable {compiled : CompiledInstruction}

/-- Indices that fit in one byte each. -/
def IndicesFit (compiled : CompiledInstruction) : Prop :=
  compiled.program.toNat < 256 ∧ ∀ index ∈ compiled.accounts, index.toNat < 256

private theorem exists_encodeIndex {index : UInt16} (small : index.toNat < 256) :
    ∃ byte, encodeIndex index = .ok byte := ⟨_, if_pos small⟩

/-- An instruction whose indices fit can only be too long. -/
theorem faultsIn_encode (fits : compiled.IndicesFit) :
    FaultsIn IsLengthOverflow compiled.encode := by
  have written {index : UInt16} (small : index.toNat < 256) :
      FaultsIn IsLengthOverflow (encodeIndex index) :=
    Outcome.faultsIn_of_eq_ok (exists_encodeIndex small).choose_spec
  rw [encode]
  refine Outcome.faultsIn_bind (written fits.1) fun program _ => ?_
  refine Outcome.faultsIn_bind faultsIn_encode? fun accountCount _ => ?_
  refine Outcome.faultsIn_bind
    (Outcome.faultsIn_mapM fun index member => written (fits.2 index member)) fun accounts _ => ?_
  exact Outcome.faultsIn_bind faultsIn_encode? fun dataLength _ =>
    Outcome.faultsIn_pure

private theorem exists_encode (fits : compiled.IndicesFit)
    (accounts : compiled.accounts.length ≤ maxValue) (data : compiled.data.length ≤ maxValue) :
    ∃ bytes, compiled.encode = .ok bytes := by
  obtain ⟨program, named⟩ := exists_encodeIndex fits.1
  obtain ⟨indices, listed⟩ := Sequence.exists_forall₂ fun index member =>
    exists_encodeIndex (fits.2 index member)
  obtain ⟨accountCount, counted⟩ := exists_encode? accounts
  obtain ⟨dataCount, sized⟩ := exists_encode? data
  rw [← Outcome.mapM_eq_ok_iff] at listed
  simp only [encode, Outcome.bind_eq_ok_iff, Outcome.pure_eq_ok_iff]
  exact ⟨_, program, named, accountCount, counted, indices, listed, dataCount, sized, rfl⟩

end CompiledInstruction

private theorem TableLookup.exists_encode {lookup : TableLookup}
    (writable : lookup.writable.length ≤ maxValue) (readonly : lookup.readonly.length ≤ maxValue) :
    ∃ bytes, lookup.encode = .ok bytes := by
  obtain ⟨writableCount, counted⟩ := exists_encode? writable
  obtain ⟨readonlyCount, sized⟩ := exists_encode? readonly
  simp only [encode, Outcome.bind_eq_ok_iff, Outcome.pure_eq_ok_iff]
  exact ⟨_, writableCount, counted, readonlyCount, sized, rfl⟩

private theorem Reader.exists_spellsEach {α : Type} {spells : α → List UInt8 → Prop}
    {values : List α} (each : ∀ value ∈ values, ∃ bytes, spells value bytes) :
    ∃ bytes, Reader.SpellsEach spells values bytes := by
  obtain ⟨chunks, spelled⟩ := Sequence.exists_forall₂ each
  exact ⟨_, chunks, spelled, rfl⟩

namespace Message

variable {instructions : List Instruction} {blockhash : Hash} {options : CompileOptions}
  {feePayer : PublicKey} {message : Message} {layout : Layout}

/-- The counts of a layout fit its own accounts: the fee payer is a signer that may be
written. -/
theorem Follows.validate_header (follows : message.Follows instructions layout)
    (sound : layout.Places feePayer instructions) :
    message.header.validate message.keys.length = .ok () := by
  have own : message.keys.length = layout.statics.length := by
    rw [follows.keys, List.length_map]
  have signers := follows.required_le
  have split := layout.writable_add_readonly
  obtain ⟨rest, statics⟩ := sound.exists_statics
  have payer : 0 < layout.statics.countP fun account => account.isSigner && account.isWritable := by
    rw [List.countP_pos_iff, statics]
    exact ⟨_, List.mem_cons_self, rfl⟩
  have others := layout.signerCount_add_readonly_le
  obtain ⟨required, readonlySigned, readonlyUnsigned⟩ := follows.counted
  exact Header.validate_eq_ok_iff.mpr ⟨by omega, by omega, by omega⟩

/-- The indices of a compiled instruction fit a byte. -/
theorem Follows.indicesFit (follows : message.Follows instructions layout)
    {compiled : CompiledInstruction} (member : compiled ∈ message.instructions) :
    compiled.IndicesFit := by
  have small {key : PublicKey} {index : UInt16}
      (found : Instruction.indexOf layout.keys key = .ok index) : index.toNat < 256 := by
    obtain ⟨inside, _⟩ :=
      List.getElem?_eq_some_iff.mp (Instruction.getElem?_of_indexOf follows.fits found)
    exact Nat.lt_of_lt_of_le inside follows.fits
  obtain ⟨instruction, _, done⟩ := Sequence.exists_of_mem_right follows.compiled member
  obtain ⟨accounts, program, _⟩ := Instruction.compile_eq_ok_iff.mp done
  refine ⟨small program, fun index listed => ?_⟩
  obtain ⟨account, _, found⟩ := Sequence.exists_of_mem_right accounts listed
  exact small found

/-- What a lookup takes from a table is no more than there are keys. -/
theorem Follows.length_lookup_le (follows : message.Follows instructions layout)
    (sound : layout.Places feePayer instructions) {lookup : TableLookup}
    (member : lookup ∈ message.lookups) :
    lookup.writable.length ≤ Layout.maxAccounts ∧ lookup.readonly.length ≤ Layout.maxAccounts := by
  rw [follows.lookups, Layout.lookups_eq] at member
  obtain ⟨entry, _, rfl⟩ := List.mem_map.mp member
  dsimp only
  rw [List.length_map, List.length_map]
  exact ⟨Nat.le_trans (sound.length_taken_le _ _) follows.fits,
    Nat.le_trans (sound.length_taken_le _ _) follows.fits⟩

/-- Instructions are as long as they are compiled. -/
theorem Follows.overlong_iff (follows : message.Follows instructions layout) :
    Overlong instructions ↔ maxValue < message.instructions.length ∨
      ∃ compiled ∈ message.instructions,
        maxValue < compiled.accounts.length ∨ maxValue < compiled.data.length := by
  have same {instruction : Instruction} {compiled : CompiledInstruction}
      (done : instruction.compile layout.keys = .ok compiled) :
      (maxValue < instruction.accounts.length ∨
        ∃ data, instruction.data = .ok data ∧ maxValue < data.length) ↔
      (maxValue < compiled.accounts.length ∨ maxValue < compiled.data.length) := by
    obtain ⟨accounts, _, data⟩ := Instruction.compile_eq_ok_iff.mp done
    rw [accounts.length_eq, data]
    simp only [Except.ok.injEq, exists_eq_left']
  rw [Overlong, follows.compiled.length_eq]
  apply or_congr_right
  constructor
  · rintro ⟨instruction, member, long⟩
    obtain ⟨compiled, present, done⟩ := Sequence.exists_of_mem_left follows.compiled member
    exact ⟨compiled, present, (same done).mp long⟩
  · rintro ⟨compiled, member, long⟩
    obtain ⟨instruction, present, done⟩ := Sequence.exists_of_mem_right follows.compiled member
    exact ⟨instruction, present, (same done).mpr long⟩

/-- A legacy message has no lookups, and not too many signers. -/
def FitsVersion (message : Message) : Prop :=
  message.version = .legacy →
    message.lookups = [] ∧ message.header.required.toNat ≤ maxLegacySigners

private theorem fitsVersion_of_compile
    (done : compile instructions blockhash options = .ok message) : message.FitsVersion := by
  intro legacy
  obtain ⟨feePayer, layout, header, compiled, version, _, _, _, made, _, chosen, rfl⟩ :=
    compile_eq_ok_iff.mp done
  have required := (Layout.header_eq_ok_iff.mp made).1.required
  simp only [CompileOptions.chooseVersion, Outcome.refuse_eq_ok_iff, Outcome.pure_eq_ok_iff]
    at chosen
  obtain ⟨noLookups, fewSigners, rfl⟩ := chosen
  dsimp only [ofParts] at legacy ⊢
  rw [required]
  refine ⟨?_, ?_⟩
  · by_contra some
    exact noLookups ⟨legacy, some⟩
  · by_contra many
    exact fewSigners ⟨legacy, Nat.lt_of_not_le many⟩

/-- The parts that depend on the version can be written. -/
theorem Follows.exists_spells (follows : message.Follows instructions layout)
    (sound : layout.Places feePayer instructions)
    (fitting : message.FitsVersion) :
    ∃ mark lookups, SpellsVersion message.version message.header mark ∧
      SpellsLookups message.version message.lookups lookups := by
  cases version : message.version with
  | legacy =>
      obtain ⟨none, few⟩ := fitting version
      exact ⟨[], [], ⟨rfl, few⟩, none, rfl⟩
  | v0 =>
      have fewer : message.lookups.length < 256 := by
        rw [follows.lookups]
        exact Nat.lt_of_lt_of_le sound.length_lookups_lt follows.fits
      have written : ∀ lookup ∈ message.lookups, ∃ chunk, lookup.encode = .ok chunk := by
        intro lookup member
        obtain ⟨writable, readonly⟩ := follows.length_lookup_le sound member
        exact TableLookup.exists_encode (Nat.le_trans writable (by decide))
          (Nat.le_trans readonly (by decide))
      obtain ⟨each, spelled⟩ := Reader.exists_spellsEach written
      exact ⟨_, _, rfl, fewer, each, spelled, rfl⟩

private theorem Follows.length_keys_le (follows : message.Follows instructions layout) :
    message.keys.length ≤ Layout.maxAccounts := by
  have fits := follows.fits
  rw [Layout.keys, List.length_append, List.length_append] at fits
  rw [follows.keys]
  omega

/-- A message that follows a layout can be written if no list is too long. -/
theorem Follows.exists_serialize (follows : message.Follows instructions layout)
    (sound : layout.Places feePayer instructions)
    (fitting : message.FitsVersion)
    (short : ¬ Overlong instructions) : ∃ bytes, message.serialize = .ok bytes := by
  rw [follows.overlong_iff] at short
  simp only [not_or, not_exists, not_and, Nat.not_lt] at short
  obtain ⟨mark, lookups, version, last⟩ := follows.exists_spells sound fitting
  have fewKeys : message.staticKeys.length ≤ maxValue := by
    rw [staticKeys_of_unresolved follows.unresolved]
    exact Nat.le_trans follows.length_keys_le (by decide)
  obtain ⟨keyCount, counted⟩ := exists_encode? fewKeys
  obtain ⟨instructionCount, sized⟩ := exists_encode? short.1
  have written : ∀ compiled ∈ message.instructions, ∃ chunk, compiled.encode = .ok chunk := by
    intro compiled member
    obtain ⟨accounts, data⟩ := short.2 compiled member
    exact CompiledInstruction.exists_encode (follows.indicesFit member) accounts data
  obtain ⟨encoded, spelled⟩ := Reader.exists_spellsEach written
  exact ⟨_, serialize_eq_ok_iff.mpr ⟨mark, keyCount, instructionCount, encoded, lookups, version,
    counted, sized, spelled, last, rfl⟩⟩

/-- Nothing but a length can go wrong when it is written. -/
theorem Follows.faultsIn_serialize (follows : message.Follows instructions layout)
    (sound : layout.Places feePayer instructions)
    (fitting : message.FitsVersion) :
    FaultsIn IsLengthOverflow message.serialize := by
  obtain ⟨mark, lookups, version, last⟩ := follows.exists_spells sound fitting
  obtain ⟨marked, looked⟩ := encodeVersion_and_encodeLookups_iff.mpr ⟨version, last⟩
  refine Outcome.faultsIn_bind (Outcome.faultsIn_of_eq_ok marked) fun _ _ => ?_
  refine Outcome.faultsIn_bind faultsIn_encode? fun _ _ => ?_
  refine Outcome.faultsIn_bind faultsIn_encode? fun _ _ => ?_
  refine Outcome.faultsIn_bind (Outcome.faultsIn_mapM fun compiled member =>
    CompiledInstruction.faultsIn_encode (follows.indicesFit member)) fun _ _ => ?_
  exact Outcome.faultsIn_bind (Outcome.faultsIn_of_eq_ok looked) fun _ _ => Outcome.faultsIn_pure

/-- A message made from some instructions can be sent, if no list in them is too long. -/
structure Sendable (message : Message) (instructions : List Instruction) : Prop where
  /-- The counts fit the message's own keys. -/
  header : message.header.validate message.staticKeys.length = .ok ()
  /-- Programs and accounts have indices of one byte. -/
  indices : ∀ compiled ∈ message.instructions, compiled.IndicesFit
  /-- The number of lookups fits in one byte. -/
  lookups : message.lookups.length ≤ 255
  /-- The message is written, and comes back, if no list is too long. -/
  written : ¬ Overlong instructions →
    ∃ bytes, message.serialize = .ok bytes ∧ deserialize bytes = .ok message
  /-- It is refused for a length if some list is too long. -/
  refused : Overlong instructions →
    ∃ fault, IsLengthOverflow fault ∧ message.serialize = .error fault
  /-- Nothing else can go wrong. -/
  faults : ∀ fault, message.serialize = .error fault → IsLengthOverflow fault

/-- **Compiled messages can be sent**, unless some list is too long for its length to be
written. -/
theorem sendable_of_compile (done : compile instructions blockhash options = .ok message) :
    message.Sendable instructions := by
  obtain ⟨feePayer, layout, _, unset, _, sound, follows⟩ := exists_follows done
  have fitting := fitsVersion_of_compile done
  have valid := follows.validate_header sound
  have faults := follows.faultsIn_serialize sound fitting
  refine { header := ?header, indices := fun _ => follows.indicesFit, lookups := ?lookups,
           written := ?written, refused := ?refused, faults }
  case header => rwa [staticKeys_of_unresolved follows.unresolved]
  case lookups =>
    rw [follows.lookups]
    exact Nat.le_of_lt_succ (Nat.lt_of_lt_of_le sound.length_lookups_lt follows.fits)
  case written =>
    intro short
    obtain ⟨bytes, written⟩ := follows.exists_serialize sound fitting short
    exact ⟨bytes, written, deserialize_eq_ok_iff.mpr ⟨⟨unset, follows.unresolved, valid⟩, written⟩⟩
  case refused =>
    intro long
    apply faults.exists_of_ne_ok
    intro bytes written
    obtain ⟨_, _, _, _, _, _, _, sized, ⟨chunks, spelled, _⟩, _⟩ := serialize_eq_ok_iff.mp written
    rcases follows.overlong_iff.mp long with many | ⟨compiled, member, long⟩
    · exact Nat.not_le_of_gt many (CompactLength.encode?_eq_ok_iff.mp sized).1
    · obtain ⟨_, _, encoded⟩ := Sequence.exists_of_mem_left spelled member
      obtain ⟨_, accounts, _, _, _, listed, counted, sized, _⟩ :=
        CompiledInstruction.encode_eq_ok_iff.mp encoded
      have fewAccounts := (CompactLength.encode?_eq_ok_iff.mp counted).1
      have fewData := (CompactLength.encode?_eq_ok_iff.mp sized).1
      rw [listed, List.length_map] at long
      omega

/-- A message that uses a table. -/
theorem sendable_handover : compile handover .zero handoverOptions = .ok handoverMessage ∧
    handoverMessage.Sendable handover := by
  have done : compile handover .zero handoverOptions = .ok handoverMessage := rfl
  exact ⟨done, sendable_of_compile done⟩

end Message

end LedgerClient
