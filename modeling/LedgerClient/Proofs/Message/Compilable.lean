import LedgerClient.Proofs.Message.Needed

/-! # What can be compiled

Compiling looks at six demands, one after the other (`LedgerClient.Demand.inOrder`), and the
first that is not met gives the fault. Every key that an instruction names is among the keys of
the layout, so the only fault that an instruction can have is that of its data
(`LedgerClient.Message.settles_compile`).
-/

namespace LedgerClient

open Outcome (FaultsIn SettledBy)

private theorem Base58Value.isZero_iff {kind : ValueKind} {value : Base58Value kind} :
    value.isZero = true ↔ value = .zero := by
  obtain ⟨bytes⟩ := value
  rw [isZero, Bytes.isZero_iff, zero, Base58Value.mk.injEq]

namespace CompileOptions

variable (options : CompileOptions) (instructions : List Instruction)

/-- The newer version is used if it is asked for, or if no version is and a key is taken from
a table. -/
def UsesV0 : Prop :=
  options.version = some .v0 ∨ options.version = none ∧ ∃ key, options.Eligible instructions key

end CompileOptions

/-- What compiling asks for. -/
inductive Demand where
  | payer
  | tables
  | accounts
  | data
  | version
  | signers
deriving DecidableEq

namespace Demand

/-- The demands in the order in which they are looked at. -/
def inOrder : List Demand := [payer, tables, accounts, data, version, signers]

private theorem mem_inOrder (demand : Demand) : demand ∈ inOrder := by
  cases demand <;> decide

/-- When a demand is met. -/
def Met (options : CompileOptions) (instructions : List Instruction) : Demand → Prop
  | payer => (∃ key, options.feePayer = some key ∧ key ≠ .zero) ∨
      ∃ first rest, instructions = first :: rest ∧
        ∃ account ∈ first.accounts, account.isSigner = true
  | tables => ∀ entry ∈ options.addressTables, entry.2.length ≤ 256
  | accounts => (options.neededKeys instructions).card ≤ 256 ∧
      (options.signingKeys instructions).card ≤ 255
  | data => ∀ instruction ∈ instructions, ∃ bytes, instruction.data = .ok bytes
  | version => options.version = some .legacy → ∀ key, ¬ options.Eligible instructions key
  | signers => options.UsesV0 instructions ∨ (options.signingKeys instructions).card ≤ 127

/-- The faults that a demand gives where it is not met. -/
def Blames (options : CompileOptions) (instructions : List Instruction) :
    Demand → LedgerError → Prop
  | payer, fault => fault = .noFeePayer
  | tables, fault => ∃ before entry after, options.addressTables = before ++ entry :: after ∧
      (∀ earlier ∈ before, earlier.2.length ≤ 256) ∧ 256 < entry.2.length ∧
      fault = .lookupTableTooLarge entry.1.text entry.2.length
  | accounts, fault => ∃ count, 255 < count ∧ count ≤ (options.neededKeys instructions).card ∧
      fault = .tooManyAccounts count
  | data, fault => ∃ before instruction after, instructions = before ++ instruction :: after ∧
      (∀ earlier ∈ before, ∃ bytes, earlier.data = .ok bytes) ∧ instruction.data = .error fault
  | version, fault => fault = .lookupsInLegacyMessage
  | signers, fault => fault = .tooManyLegacySigners (options.signingKeys instructions).card

variable {options : CompileOptions} {instructions : List Instruction}

/-- The choice of the payer settles the demand for one. -/
theorem settled_chooseFeePayer :
    SettledBy (Met options instructions) (Blames options instructions) [payer]
      (options.chooseFeePayer instructions) := by
  rw [CompileOptions.chooseFeePayer]
  split
  case h_1 key named =>
    obtain ⟨named, unset⟩ := Option.filter_eq_some_iff.mp named
    refine .passed (.inl ⟨key, named, fun zero => ?_⟩) (.done key)
    rw [Base58Value.isZero_iff.mpr zero] at unset
    cases unset
  case h_2 unnamed =>
    split
    case h_1 account found =>
      obtain ⟨first, head, signer⟩ := Option.bind_eq_some_iff.mp found
      obtain ⟨rest, rfl⟩ := List.head?_eq_some_iff.mp head
      refine .passed (.inr ⟨first, rest, rfl, account, ?_, ?_⟩) (.done account.key)
      · exact List.mem_of_find?_eq_some signer
      · exact List.find?_some signer
    case h_2 missing =>
      refine .unmet ?_ rfl
      rintro (⟨key, named, set⟩ | ⟨first, rest, rfl, account, listed, signer⟩)
      · have unset := Option.filter_eq_none_iff.mp unnamed key named
        rw [Bool.not_eq_true, Bool.not_eq_false', Base58Value.isZero_iff] at unset
        exact set unset
      · exact List.find?_eq_none.mp missing account listed signer

/-- The check of the tables settles the demand on their lengths. -/
theorem settled_checkTables :
    SettledBy (Met options instructions) (Blames options instructions) [tables]
      (Layout.checkTables options.addressTables) := by
  refine .of_iff ?_ ?_
  · exact Unique.exists_iff.trans Layout.checkTables_eq_ok_iff
  · intro fault failed
    unfold Layout.checkTables at failed
    split at failed
    case h_1 table addresses found =>
      cases failed
      obtain ⟨long, before, after, split, earlier⟩ := List.find?_eq_some_iff_append.mp found
      refine ⟨before, _, after, split, ?_, of_decide_eq_true long, rfl⟩
      intro entry member
      have fits := earlier entry member
      rw [Bool.not_eq_true', decide_eq_false_iff_not] at fits
      exact Nat.le_of_not_lt fits
    case h_2 => cases failed

end Demand

namespace Layout

variable {layout : Layout} {feePayer : PublicKey} {instructions : List Instruction}

private theorem faultsIn_headerCount {count : Nat} :
    FaultsIn (fun fault => 255 < count ∧ fault = .tooManyAccounts count) (headerCount count) := by
  intro fault failed
  unfold headerCount at failed
  split at failed
  case isTrue => cases failed
  case isFalse large =>
    cases failed
    exact ⟨Nat.le_of_not_lt large, rfl⟩

private theorem length_statics_le : layout.statics.length ≤ layout.keys.length := by
  rw [keys, List.length_append, List.length_append, List.length_map]
  omega

/-- A header can only be refused for a number of accounts. -/
theorem faultsIn_header : FaultsIn (fun fault => ∃ count, 255 < count ∧
    count ≤ layout.keys.length ∧ fault = .tooManyAccounts count) layout.header := by
  have counted (counted : AccountMeta → Bool) : FaultsIn (fun fault => ∃ count, 255 < count ∧
      count ≤ layout.keys.length ∧ fault = .tooManyAccounts count)
      (headerCount (layout.statics.countP counted)) := by
    intro fault failed
    obtain ⟨large, same⟩ := faultsIn_headerCount fault failed
    exact ⟨_, large, Nat.le_trans List.countP_le_length length_statics_le, same⟩
  refine Outcome.faultsIn_bind (counted _) fun required _ => ?_
  refine Outcome.faultsIn_bind (counted _) fun readonlySigned _ => ?_
  refine Outcome.faultsIn_bind (counted _) fun readonlyUnsigned _ => ?_
  by_cases many : maxAccounts < layout.keys.length
  · rw [if_pos many]
    rintro _ ⟨⟩
    exact ⟨_, Nat.lt_of_succ_lt many, Nat.le_refl _, rfl⟩
  · rw [if_neg many]
    exact Outcome.faultsIn_pure

/-- **Which counts fit a header**: there are not too many keys, nor too many of them that sign.
The payer signs, so the accounts that are only read are fewer than the keys. -/
theorem Places.exists_header_iff (sound : layout.Places feePayer instructions) :
    (∃ header, layout.header = .ok header) ↔
      layout.keys.length ≤ 256 ∧ layout.signerCount ≤ 255 := by
  simp only [header_eq_ok_iff]
  constructor
  · rintro ⟨header, counted, fits⟩
    exact ⟨fits, counted.required ▸ Nat.le_of_lt_succ header.required.toNat_lt⟩
  · rintro ⟨fits, few⟩
    have split := layout.writable_add_readonly
    have others := layout.signerCount_add_readonly_le
    have own := layout.length_statics_le
    have payer : 0 < layout.signerCount := by
      obtain ⟨rest, statics⟩ := sound.exists_statics
      rw [signerCount, List.countP_pos_iff, statics]
      exact ⟨_, List.mem_cons_self, rfl⟩
    have byte {count : Nat} (small : count < 256) : (UInt8.ofNat count).toNat = count :=
      UInt8.toNat_ofNat_of_lt' small
    exact ⟨⟨_, _, _⟩, ⟨byte (by omega), byte (by omega), byte (by omega)⟩, fits⟩

end Layout

namespace Instruction

variable {keys : List PublicKey} {instruction : Instruction}

private theorem exists_indexOf {key : PublicKey} (known : key ∈ keys) :
    ∃ index, indexOf keys key = .ok index := by
  cases found : keys.idxOf? key with
  | some place => exact ⟨UInt16.ofNat place, by rw [indexOf, found]⟩
  | none => exact (List.idxOf?_eq_none_iff.mp found known).elim

/-- The keys that an instruction names. -/
def Names (instruction : Instruction) (key : PublicKey) : Prop :=
  key = instruction.program ∨ ∃ account ∈ instruction.accounts, account.key = key

/-- **An instruction whose keys are known** compiles if its data does. -/
theorem compile_eq_of_names (known : ∀ key, instruction.Names key → key ∈ keys) :
    ∃ program accounts, instruction.compile keys =
      instruction.data >>= fun data => pure ⟨program, accounts, data⟩ := by
  obtain ⟨program, atProgram⟩ := exists_indexOf (known _ (.inl rfl))
  have each : ∀ account ∈ instruction.accounts, ∃ index, indexOf keys account.key = .ok index :=
    fun account member => exists_indexOf (known _ (.inr ⟨account, member, rfl⟩))
  obtain ⟨accounts, atAccounts⟩ := Sequence.exists_forall₂ each
  have indexed := Outcome.mapM_eq_ok_iff.mpr atAccounts
  refine ⟨program, accounts, ?_⟩
  rw [compile, indexed, atProgram]
  rfl

private theorem exists_compile_iff (known : ∀ key, instruction.Names key → key ∈ keys) :
    (∃ compiled, instruction.compile keys = .ok compiled) ↔
      ∃ bytes, instruction.data = .ok bytes := by
  obtain ⟨program, accounts, same⟩ := compile_eq_of_names known
  simp only [same, Outcome.bind_eq_ok_iff, Outcome.pure_eq_ok_iff]
  constructor
  · rintro ⟨_, bytes, found, _⟩
    exact ⟨bytes, found⟩
  · rintro ⟨bytes, found⟩
    exact ⟨_, bytes, found, rfl⟩

private theorem faultsIn_compile (known : ∀ key, instruction.Names key → key ∈ keys) :
    FaultsIn (fun fault => instruction.data = .error fault) (instruction.compile keys) := by
  obtain ⟨program, accounts, same⟩ := compile_eq_of_names known
  rw [same]
  exact Outcome.faultsIn_bind (fun _ failed => failed) fun _ _ => Outcome.faultsIn_pure

end Instruction

namespace Demand

variable {options : CompileOptions} {instructions : List Instruction} {feePayer key : PublicKey}
  {layout : Layout}

/-- The header settles the demand on the number of accounts and signers. -/
theorem settled_header (payer : options.chooseFeePayer instructions = .ok feePayer)
    (sound : layout.Places feePayer instructions) :
    SettledBy (Met options instructions) (Blames options instructions) [accounts]
      layout.header := by
  have needed := CompileOptions.card_neededKeys payer sound
  refine .of_iff ?_ ?_
  · rw [sound.exists_header_iff, ← needed, ← CompileOptions.card_signingKeys payer sound]
    exact Iff.rfl
  · rintro fault failed
    obtain ⟨count, large, bounded, same⟩ := Layout.faultsIn_header fault failed
    exact ⟨count, large, needed ▸ bounded, same⟩

/-- **Every key of an instruction is among the keys** of a layout. -/
theorem mem_keys_of_names (sound : layout.Places feePayer instructions) {instruction : Instruction}
    (member : instruction ∈ instructions) (named : instruction.Names key) : key ∈ layout.keys := by
  rw [sound.perm_keys.mem_iff, sound.map_key]
  exact Layout.mem_accounts_iff.mpr (.inr ⟨instruction, member, named⟩)

/-- The instructions settle the demand that each of them has data. -/
theorem settled_instructions (sound : layout.Places feePayer instructions) :
    SettledBy (Met options instructions) (Blames options instructions) [data]
      (instructions.mapM (Instruction.compile layout.keys)) := by
  have known {instruction : Instruction} (member : instruction ∈ instructions) (key : PublicKey) :
      instruction.Names key → key ∈ layout.keys := mem_keys_of_names sound member
  refine .of_iff ?_ ?_
  · simp only [Outcome.mapM_eq_ok_iff]
    constructor
    · rintro ⟨compiled, made⟩ instruction member
      obtain ⟨result, _, found⟩ := Sequence.exists_of_mem_left made member
      exact (Instruction.exists_compile_iff (known member)).mp ⟨result, found⟩
    · intro met
      apply Sequence.exists_forall₂
      intro instruction member
      exact (Instruction.exists_compile_iff (known member)).mpr (met instruction member)
  · intro fault failed
    obtain ⟨before, instruction, after, rfl, fine, wrong⟩ := Outcome.exists_of_mapM_eq_error failed
    refine ⟨before, instruction, after, rfl, ?_, ?_⟩
    · intro earlier member
      have present := List.mem_append_left (instruction :: after) member
      exact (Instruction.exists_compile_iff (known present)).mp (fine earlier member)
    · have present : instruction ∈ before ++ instruction :: after :=
        List.mem_append_right _ List.mem_cons_self
      exact Instruction.faultsIn_compile (known present) fault wrong

private theorem chosen_eq_v0_iff {lookups : List TableLookup}
    (taken : lookups ≠ [] ↔ ∃ key, options.Eligible instructions key) :
    options.version.getD (if lookups.isEmpty then .legacy else .v0) = .v0 ↔
      options.UsesV0 instructions := by
  rw [CompileOptions.UsesV0, ← taken]
  rcases options.version with _ | version
  · cases lookups <;> simp
  · simp

/-- The choice of the version settles the demands that depend on it. -/
theorem settled_chooseVersion {lookups : List TableLookup}
    (taken : lookups ≠ [] ↔ ∃ key, options.Eligible instructions key) :
    SettledBy (Met options instructions) (Blames options instructions) [version, signers]
      (options.chooseVersion lookups (options.signingKeys instructions).card) := by
  refine .refuse ?_ (fun _ => rfl) ?_
  · rw [Met, Classical.not_imp, not_forall_not, ← taken]
    apply and_congr_left
    intro some
    rcases options.version with _ | version <;> simp [some]
  · refine .refuse ?_ (fun _ => rfl) (.done _)
    rw [Met, not_or, Nat.not_le, ← chosen_eq_v0_iff taken]
    apply and_congr_left'
    generalize options.version.getD (if lookups.isEmpty then .legacy else .v0) = chosen
    cases chosen <;> simp

end Demand

namespace Message

open Demand (Met Blames)

variable {instructions : List Instruction} {blockhash : Hash} {options : CompileOptions}
  {feePayer : PublicKey} {message : Message}

/-- **Compiling settles its demands in their order.** -/
theorem settledBy_compile : SettledBy (Met options instructions) (Blames options instructions)
    Demand.inOrder (compile instructions blockhash options) := by
  -- Each step looks at its own demands; nothing is placed before the tables are checked.
  have steps : Demand.inOrder = [Demand.payer] ++ ([Demand.tables] ++ ([Demand.accounts] ++
      ([Demand.data] ++ ([Demand.version, Demand.signers] ++ [])))) := rfl
  rw [steps, compile]
  refine .bind Demand.settled_chooseFeePayer fun feePayer payer => ?_
  refine .bind Demand.settled_checkTables fun _ checked => ?_
  have sound : (Layout.place feePayer instructions options.addressTables).Places feePayer
      instructions := Layout.places_place checked
  refine .bind (Demand.settled_header payer sound) fun header _ => ?_
  refine .bind (Demand.settled_instructions sound) fun compiled _ => ?_
  refine .bind ?_ fun version _ => .done _
  rw [← CompileOptions.card_signingKeys payer sound]
  exact Demand.settled_chooseVersion (CompileOptions.lookups_ne_nil_iff payer checked)

/-- The version is V0 where it is asked for or a table is used. -/
theorem version_eq_v0_iff (done : compile instructions blockhash options = .ok message) :
    message.version = .v0 ↔ options.UsesV0 instructions := by
  obtain ⟨feePayer, _, header, compiled, version, payer, checked, rfl, _, _, chosen, rfl⟩ :=
    compile_eq_ok_iff.mp done
  rw [← Demand.chosen_eq_v0_iff (CompileOptions.lookups_ne_nil_iff payer checked)]
  simp only [CompileOptions.chooseVersion, Outcome.refuse_eq_ok_iff, Outcome.pure_eq_ok_iff]
    at chosen
  rw [chosen.2.2]
  exact Iff.rfl

/-- What compiling accepts, and why it refuses the rest. -/
structure Settles (instructions : List Instruction) (blockhash : Hash) (options : CompileOptions) :
    Prop where
  /-- It accepts exactly what meets every demand. -/
  accepts : (∃ message, compile instructions blockhash options = .ok message) ↔
    ∀ demand, Met options instructions demand
  /-- It refuses with a fault of the first demand that is not met. -/
  refuses : ∀ fault, compile instructions blockhash options = .error fault →
    ∃ before demand after, Demand.inOrder = before ++ demand :: after ∧
      (∀ earlier ∈ before, Met options instructions earlier) ∧
      ¬ Met options instructions demand ∧ Blames options instructions demand fault
  version : ∀ message, compile instructions blockhash options = .ok message →
    (message.version = .v0 ↔ options.UsesV0 instructions)
  /-- Where it looks for the index of a key, there is one. -/
  indexed : ∀ feePayer, options.chooseFeePayer instructions = .ok feePayer →
    Layout.checkTables options.addressTables = .ok () →
      ∀ instruction ∈ instructions, ∀ key, instruction.Names key → ∃ index,
        Instruction.indexOf (Layout.place feePayer instructions options.addressTables).keys key =
          .ok index

/-- **Compiling accepts exactly what can be compiled**, and blames the first demand that is
not met. -/
theorem settles_compile (instructions : List Instruction) (blockhash : Hash)
    (options : CompileOptions) : Settles instructions blockhash options where
  accepts := by
    rw [settledBy_compile.exists_ok_iff]
    exact ⟨fun met demand => met demand demand.mem_inOrder, fun met demand _ => met demand⟩
  refuses _ failed := settledBy_compile.exists_first failed
  version _ done := version_eq_v0_iff done
  indexed _ _ checked _ member _ named :=
    Instruction.exists_indexOf (Demand.mem_keys_of_names (Layout.places_place checked) member named)

end Message

end LedgerClient
