import LedgerClient.Proofs.Message.Compile
import Mathlib.Data.Finset.Card
import Mathlib.Data.Finset.Option

/-! # The keys that instructions need

A layout counts its keys and its signers as it goes. The counts are the sizes of the sets of
keys that the payer and the instructions ask for
(`LedgerClient.CompileOptions.card_neededKeys`,
`LedgerClient.CompileOptions.card_signingKeys`), and a key is taken from a table exactly if it is
eligible for that (`LedgerClient.CompileOptions.eligible_iff`).
-/

namespace LedgerClient

namespace CompileOptions

variable (options : CompileOptions) (instructions : List Instruction)

/-- The key that pays, if there is one. -/
def payers : Finset PublicKey := (options.chooseFeePayer instructions).toOption.toFinset

/-- The keys of a message: the one that pays, the accounts and the programs. -/
def neededKeys : Finset PublicKey :=
  options.payers instructions ∪
    ((instructions.flatMap Instruction.accounts).map AccountMeta.key).toFinset ∪
    (instructions.map Instruction.program).toFinset

/-- The keys that sign: the one that pays and the accounts that are marked as signers. -/
def signingKeys : Finset PublicKey :=
  options.payers instructions ∪
    (((instructions.flatMap Instruction.accounts).filter AccountMeta.isSigner).map
      AccountMeta.key).toFinset

/-- A key that is taken from a table: one lists it, and it is needed, but it neither signs nor
is invoked. -/
def Eligible (key : PublicKey) : Prop :=
  (∃ entry ∈ options.addressTables, key ∈ entry.2) ∧ key ∈ options.neededKeys instructions ∧
    key ∉ options.signingKeys instructions ∧ key ∉ instructions.map Instruction.program

end CompileOptions

section Counts

variable {options : CompileOptions} {instructions : List Instruction} {feePayer key : PublicKey}
  {layout : Layout}

namespace CompileOptions

variable (payer : options.chooseFeePayer instructions = .ok feePayer)

include payer

private theorem mem_payers_iff : key ∈ options.payers instructions ↔ key = feePayer := by
  rw [payers, payer, Option.mem_toFinset]
  exact Option.some_inj.trans eq_comm

/-- The needed keys are those of the accounts. -/
theorem mem_neededKeys_iff : key ∈ options.neededKeys instructions ↔
    key ∈ (Layout.accounts feePayer instructions).map AccountMeta.key := by
  rw [Layout.mem_accounts_iff]
  simp only [neededKeys, Finset.mem_union, mem_payers_iff payer, List.mem_toFinset, List.mem_map,
    List.mem_flatMap]
  constructor
  · rintro ((paying | ⟨account, ⟨instruction, member, listed⟩, same⟩) | ⟨instruction, member, same⟩)
    · exact .inl paying
    · exact .inr ⟨instruction, member, .inr ⟨account, listed, same⟩⟩
    · exact .inr ⟨instruction, member, .inl same.symm⟩
  · rintro (paying | ⟨instruction, member, same | ⟨account, listed, same⟩⟩)
    · exact .inl (.inl paying)
    · exact .inr ⟨instruction, member, same.symm⟩
    · exact .inl (.inr ⟨account, ⟨instruction, member, listed⟩, same⟩)

private theorem mem_signingKeys_iff : key ∈ options.signingKeys instructions ↔
    key = feePayer ∨ Marked AccountMeta.isSigner instructions key := by
  simp only [signingKeys, Finset.mem_union, mem_payers_iff payer, List.mem_toFinset, List.mem_map,
    List.mem_filter, List.mem_flatMap]
  refine or_congr_right ⟨?_, ?_⟩
  · rintro ⟨account, ⟨⟨instruction, member, listed⟩, signer⟩, same⟩
    exact ⟨instruction, member, account, listed, same, signer⟩
  · rintro ⟨instruction, member, account, listed, same, signer⟩
    exact ⟨account, ⟨⟨instruction, member, listed⟩, signer⟩, same⟩

variable (sound : layout.Places feePayer instructions)

include sound

/-- **The keys of a layout** are as many as are needed. -/
theorem card_neededKeys : (options.neededKeys instructions).card = layout.keys.length := by
  have same : options.neededKeys instructions =
      ((Layout.accounts feePayer instructions).map AccountMeta.key).toFinset := by
    ext key
    rw [mem_neededKeys_iff payer, List.mem_toFinset]
  rw [same, List.toFinset_card_of_nodup Layout.nodup_accounts, sound.perm_keys.length_eq,
    sound.map_key]

/-- **The signers of a layout** are as many as sign. -/
theorem card_signingKeys : (options.signingKeys instructions).card = layout.signerCount := by
  have same : options.signingKeys instructions =
      (((Layout.accounts feePayer instructions).filter AccountMeta.isSigner).map
        AccountMeta.key).toFinset := by
    ext key
    rw [mem_signingKeys_iff payer, List.mem_toFinset, List.mem_map]
    constructor
    · intro signs
      -- The payer signs even where no account list says so.
      have needed : key ∈ (Layout.accounts feePayer instructions).map AccountMeta.key := by
        refine Layout.mem_accounts_iff.mpr ?_
        rcases signs with paying | ⟨instruction, member, account, listed, same, _⟩
        · exact .inl paying
        · exact .inr ⟨instruction, member, .inr ⟨account, listed, same⟩⟩
      obtain ⟨account, member, rfl⟩ := List.mem_map.mp needed
      exact ⟨account, List.mem_filter.mpr ⟨member, (Layout.isSigner_iff member).mpr signs⟩, rfl⟩
    · rintro ⟨account, member, rfl⟩
      obtain ⟨member, signer⟩ := List.mem_filter.mp member
      exact (Layout.isSigner_iff member).mp signer
  have distinct := Layout.nodup_accounts.sublist
    ((List.filter_sublist (p := AccountMeta.isSigner)
      (l := Layout.accounts feePayer instructions)).map AccountMeta.key)
  rw [same, List.toFinset_card_of_nodup distinct, List.length_map, ← sound.filter_isSigner,
    Layout.signerCount, List.countP_eq_length_filter]

end CompileOptions

namespace Layout

private theorem exists_slotFrom_iff {tables : List (PublicKey × List PublicKey)} (start : Nat) :
    (∃ slot, slotFrom start key tables = some slot) ↔ ∃ entry ∈ tables, key ∈ entry.2 := by
  induction tables generalizing start with
  | nil => simp [slotFrom]
  | cons entry rest ih =>
      rw [slotFrom, List.exists_mem_cons_iff, ← ih (start + 1)]
      cases found : entry.2.idxOf? key with
      | some index =>
          have listed : key ∈ entry.2 := by
            obtain ⟨inside, holds, _⟩ := List.idxOf?_eq_some_iff.mp found
            exact List.mem_of_getElem holds
          exact iff_of_true ⟨_, rfl⟩ (.inl listed)
      | none => exact (or_iff_right (List.idxOf?_eq_none_iff.mp found)).symm

/-- **A message has lookups** exactly if an account comes from a table. -/
theorem Places.lookups_ne_nil_iff (sound : layout.Places feePayer instructions) :
    layout.lookups ≠ [] ↔ ∃ placed ∈ layout.placed, ∃ slot, placed.slot = some slot := by
  rw [lookups_eq, ← List.length_pos_iff, List.length_map, List.length_pos_iff_exists_mem]
  simp only [List.mem_filter]
  constructor
  · rintro ⟨entry, _, inUse⟩
    obtain ⟨_, _, taken⟩ := isUsed_iff.mp inUse
    obtain ⟨placed, present, atSlot, _⟩ := mem_taken_iff.mp taken
    exact ⟨placed, present, _, atSlot⟩
  · rintro ⟨placed, present, slot, atSlot⟩
    obtain ⟨entry, atTable, _⟩ := sound.held placed present slot atSlot
    refine ⟨(entry, slot.table), List.mem_zipIdx_iff_getElem?.mpr atTable, isUsed_iff.mpr ?_⟩
    exact ⟨_, (_, slot.index), mem_taken_iff.mpr ⟨placed, present, atSlot, rfl, rfl⟩⟩

/-- **Which accounts come from a table**, and from which place. -/
theorem mem_place_iff {tables : List (PublicKey × List PublicKey)} {account : AccountMeta}
    {slot : Slot} : ⟨account, some slot⟩ ∈ (place feePayer instructions tables).placed ↔
      account ∈ accounts feePayer instructions ∧ account.isSigner = false ∧
        account.key ∉ instructions.map Instruction.program ∧
        slotFrom 0 account.key tables = some slot := by
  have spared (account : AccountMeta) :
      (account.isSigner || (programs instructions).contains account.key) = true ↔
        ¬ (account.isSigner = false ∧ account.key ∉ instructions.map Instruction.program) := by
    rw [Bool.or_eq_true, List.contains_iff_mem, programs, List.mem_eraseDups, not_and_or, not_not,
      Bool.not_eq_false]
  rw [place, List.mem_map]
  simp only [Placed.mk.injEq]
  constructor
  · rintro ⟨account, member, rfl, found⟩
    split at found
    case isTrue => cases found
    case isFalse free =>
      rw [spared, not_not] at free
      exact ⟨member, free.1, free.2, found⟩
  · rintro ⟨member, other, unused, found⟩
    refine ⟨account, member, rfl, ?_⟩
    rw [if_neg ((spared account).not.mpr (not_not.mpr ⟨other, unused⟩)), found]

end Layout

namespace CompileOptions

variable (payer : options.chooseFeePayer instructions = .ok feePayer)

include payer

/-- The eligible keys are those that the placement takes from a table. -/
theorem eligible_iff : options.Eligible instructions key ↔ ∃ account slot,
    ⟨account, some slot⟩ ∈ (Layout.place feePayer instructions options.addressTables).placed ∧
      account.key = key := by
  simp only [Layout.mem_place_iff]
  rw [Eligible, mem_neededKeys_iff payer, mem_signingKeys_iff payer, ← Layout.exists_slotFrom_iff 0]
  constructor
  · rintro ⟨⟨slot, found⟩, needed, other, unused⟩
    obtain ⟨account, member, rfl⟩ := List.mem_map.mp needed
    rw [← Layout.isSigner_iff member, Bool.not_eq_true] at other
    exact ⟨account, slot, ⟨member, other, unused, found⟩, rfl⟩
  · rintro ⟨account, slot, ⟨member, other, unused, found⟩, rfl⟩
    rw [← Layout.isSigner_iff member, Bool.not_eq_true]
    exact ⟨⟨slot, found⟩, List.mem_map_of_mem member, other, unused⟩

/-- A message has lookups exactly if a key is eligible for one. -/
theorem lookups_ne_nil_iff (checked : Layout.checkTables options.addressTables = .ok ()) :
    (Layout.place feePayer instructions options.addressTables).lookups ≠ [] ↔
      ∃ key, options.Eligible instructions key := by
  simp only [(Layout.places_place checked).lookups_ne_nil_iff, eligible_iff payer]
  constructor
  · rintro ⟨⟨account, _⟩, member, slot, rfl⟩
    exact ⟨account.key, account, slot, member, rfl⟩
  · rintro ⟨_, account, slot, member, _⟩
    exact ⟨_, member, slot, rfl⟩

end CompileOptions

end Counts

end LedgerClient
