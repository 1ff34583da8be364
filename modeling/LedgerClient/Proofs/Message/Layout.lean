import LedgerClient.Proofs.Message.Accounts
import LedgerClient.Proofs.Message.AddressTables

/-! # Every account has one place

Placing accounts keeps each of them (`LedgerClient.Layout.Places.perm_keys`), and the counts of
the header tell the privileges of those that do not come from tables
(`LedgerClient.Layout.Places.isSigner_iff_lt`,
`LedgerClient.Layout.Places.privileged_iff_lt`).
-/

namespace LedgerClient.Layout

variable {layout : Layout} {key : PublicKey} {tables : List (PublicKey × List PublicKey)}

/-- Tables pass if none is longer than an index can reach. -/
theorem checkTables_eq_ok_iff : checkTables tables = .ok () ↔
    ∀ entry ∈ tables, entry.2.length ≤ maxTableLength := by
  unfold checkTables
  split
  case h_1 table addresses found =>
    have tooLong := List.find?_some found
    have member := List.mem_of_find?_eq_some found
    rw [decide_eq_true_eq] at tooLong
    refine iff_of_false Outcome.throw_ne_ok ?_
    intro short
    exact Nat.not_le_of_gt tooLong (short _ member)
  case h_2 none =>
    refine iff_of_true rfl ?_
    intro entry member
    have short := List.find?_eq_none.mp none entry member
    rw [decide_eq_true_eq] at short
    exact Nat.le_of_not_gt short

/-- A key is taken from the first table that lists it, at its first index there. -/
theorem slotFrom_eq_some_iff (start : Nat) {slot : Slot} :
    slotFrom start key tables = some slot ↔ ∃ before entry after,
      tables = before ++ entry :: after ∧ (∀ earlier ∈ before, key ∉ earlier.2) ∧ key ∈ entry.2 ∧
        slot = ⟨start + before.length, UInt8.ofNat (entry.2.idxOf key)⟩ := by
  induction tables generalizing start with
  | nil =>
      refine iff_of_false (Option.some_ne_none slot).symm ?_
      rintro ⟨before, entry, after, impossible, _⟩
      exact List.append_ne_nil_of_right_ne_nil before (List.cons_ne_nil entry after) impossible.symm
  | cons entry rest ih =>
      rw [slotFrom]
      cases found : entry.2.idxOf? key with
      | some index =>
          obtain ⟨inside, holds, _⟩ := List.idxOf?_eq_some_iff.mp found
          have listed : key ∈ entry.2 := List.mem_of_getElem holds
          have first : entry.2.idxOf key = index := by
            rw [List.idxOf_eq_getD_idxOf?, found, Option.getD_some]
          rw [Option.some.injEq]
          constructor
          · rintro rfl
            exact ⟨[], entry, rest, rfl, fun _ member => (List.not_mem_nil member).elim, listed,
              first ▸ rfl⟩
          · rintro ⟨before, other, after, split, unlisted, _, rfl⟩
            rcases before with _ | ⟨head, before⟩
            · cases split
              rw [first]
              rfl
            · cases split
              exact (unlisted _ List.mem_cons_self listed).elim
      | none =>
          have unlisted : key ∉ entry.2 := List.idxOf?_eq_none_iff.mp found
          dsimp only
          rw [ih]
          constructor
          · rintro ⟨before, other, after, rfl, earlier, listed, rfl⟩
            refine ⟨entry :: before, other, after, rfl, ?_, listed, ?_⟩
            · exact List.forall_mem_cons.mpr ⟨unlisted, earlier⟩
            · rw [List.length_cons, Nat.add_assoc, Nat.add_comm 1]
          · rintro ⟨before, other, after, split, earlier, listed, rfl⟩
            rcases before with _ | ⟨head, before⟩
            · cases split
              exact (unlisted listed).elim
            · cases split
              refine ⟨before, other, after, rfl, (List.forall_mem_cons.mp earlier).2, listed, ?_⟩
              rw [List.length_cons, Nat.add_assoc, Nat.add_comm 1]

/-- The place of a key in the tables holds the key. -/
theorem exists_of_slotFrom {start : Nat} {slot : Slot}
    (short : ∀ entry ∈ tables, entry.2.length ≤ maxTableLength)
    (found : slotFrom start key tables = some slot) :
    ∃ place entry, slot.table = start + place ∧ tables[place]? = some entry ∧
      entry.2[slot.index.toNat]? = some key := by
  obtain ⟨before, entry, after, rfl, _, listed, rfl⟩ := (slotFrom_eq_some_iff start).mp found
  have bounded := short entry (List.mem_append_right _ List.mem_cons_self)
  have inside := List.idxOf_lt_length_of_mem listed
  rw [maxTableLength] at bounded
  refine ⟨before.length, entry, rfl, ?_, ?_⟩
  · rw [List.getElem?_append_right (Nat.le_refl _), Nat.sub_self, List.getElem?_cons_zero]
  · rw [UInt8.toNat_ofNat', Nat.mod_eq_of_lt (by omega)]
    exact List.getElem?_idxOf listed

/-- A layout places the accounts of some instructions: a place in the tables holds the
key of its account, and no signer has one. -/
structure Places (layout : Layout) (feePayer : PublicKey) (instructions : List Instruction) :
    Prop where
  accounts : layout.placed.map Placed.account = Layout.accounts feePayer instructions
  held : ∀ placed ∈ layout.placed, ∀ slot, placed.slot = some slot → ∃ entry,
    layout.tables[slot.table]? = some entry ∧ entry.2[slot.index.toNat]? = some placed.account.key
  signersOwn : ∀ placed ∈ layout.placed, placed.account.isSigner = true → placed.slot = none

/-- **The placement is sound**: what it places are the accounts, each at a slot of its own key. -/
theorem places_place {feePayer : PublicKey} {instructions : List Instruction}
    (checked : checkTables tables = .ok ()) :
    (place feePayer instructions tables).Places feePayer instructions where
  accounts := by
    rw [place, List.map_map]
    exact List.map_id _
  held := by
    intro placed member slot taken
    obtain ⟨account, _, rfl⟩ := List.mem_map.mp member
    dsimp only at taken
    split at taken
    case isTrue => cases taken
    case isFalse =>
      obtain ⟨place, entry, table, atPlace, holds⟩ :=
        exists_of_slotFrom (checkTables_eq_ok_iff.mp checked) taken
      rw [Nat.zero_add] at table
      exact ⟨entry, table ▸ atPlace, holds⟩
  signersOwn := by
    intro placed member signer
    obtain ⟨account, _, rfl⟩ := List.mem_map.mp member
    dsimp only at signer ⊢
    rw [signer, Bool.true_or, if_pos rfl]

/-- The message's own accounts are those placed without a slot. -/
theorem mem_statics_iff {account : AccountMeta} :
    account ∈ layout.statics ↔ ⟨account, none⟩ ∈ layout.placed := by
  simp only [statics, List.mem_map, List.mem_filter, Option.isNone_iff_eq_none]
  constructor
  · rintro ⟨⟨_, _⟩, ⟨member, rfl⟩, rfl⟩
    exact member
  · intro member
    exact ⟨_, ⟨member, rfl⟩, rfl⟩

/-- What is taken from a table are the accounts placed there. -/
theorem mem_taken_iff {table : Nat} {isWritable : Bool} {taken : PublicKey × UInt8} :
    taken ∈ layout.taken table isWritable ↔ ∃ placed ∈ layout.placed,
      placed.slot = some ⟨table, taken.2⟩ ∧ placed.account.isWritable = isWritable ∧
        placed.account.key = taken.1 := by
  rw [Layout.taken, List.mem_filterMap]
  constructor
  · rintro ⟨placed, member, found⟩
    refine ⟨placed, member, ?_⟩
    split at found
    case h_1 slot atSlot =>
      split at found
      case isTrue matching =>
        cases found
        obtain ⟨rfl, writable⟩ := matching
        exact ⟨atSlot, writable, rfl⟩
      case isFalse => cases found
    case h_2 => cases found
  · rintro ⟨placed, member, atSlot, writable, same⟩
    refine ⟨placed, member, ?_⟩
    rw [atSlot]
    dsimp only
    rw [if_pos ⟨rfl, writable⟩, same]

/-- The places that come from tables and may be written, or the ones that are only read. -/
def fromTables (layout : Layout) (isWritable : Bool) : List Placed :=
  layout.placed.filter fun placed => placed.slot.isSome && placed.account.isWritable == isWritable

/-- The keys that are taken from a table are those of the accounts placed there. -/
theorem map_fst_taken (table : Nat) (isWritable : Bool) :
    (layout.taken table isWritable).map Prod.fst =
      ((layout.fromTables isWritable).filter fun placed =>
        placed.slot.map Slot.table = some table).map fun placed => placed.account.key := by
  rw [taken, fromTables]
  induction layout.placed with
  | nil => rfl
  | cons placed rest ih =>
      obtain ⟨account, _ | slot⟩ := placed
      · simpa using ih
      · by_cases same : slot.table = table <;>
          by_cases writable : account.isWritable = isWritable <;>
            simpa [same, writable] using ih

private theorem perm_fromTables : ((layout.placed.filter fun placed => placed.slot.isNone) ++
    (layout.fromTables true ++ layout.fromTables false)).Perm layout.placed := by
  have own := List.filter_append_perm (fun placed : Placed => placed.slot.isNone) layout.placed
  have taken := List.filter_append_perm (fun placed : Placed => placed.account.isWritable)
    (layout.placed.filter fun placed => !placed.slot.isNone)
  refine .trans (.append_left _ ?_) own
  convert taken using 2
  · rw [fromTables, List.filter_filter]
    apply List.filter_congr
    intro placed _
    rw [Option.not_isNone, Bool.and_comm, beq_true]
  · rw [fromTables, List.filter_filter]
    apply List.filter_congr
    intro placed _
    rw [Option.not_isNone, Bool.and_comm, beq_false]

/-- The keys that come from tables and may be written, or the ones that are only read. -/
def takenKeys (layout : Layout) (isWritable : Bool) : List PublicKey :=
  (layout.takenByTable isWritable).flatten.map Prod.fst

/-- The keys from the tables come table by table. -/
theorem takenKeys_eq (isWritable : Bool) : layout.takenKeys isWritable =
    (List.range layout.tables.length).flatMap fun table =>
      (layout.taken table isWritable).map Prod.fst := by
  rw [takenKeys, takenByTable, ← List.flatMap_def, List.map_flatMap]

/-- The message's own accounts keep the order in which they are placed. -/
theorem sublist_statics : layout.statics.Sublist (layout.placed.map Placed.account) :=
  List.filter_sublist.map _

namespace Places

variable {feePayer : PublicKey} {instructions : List Instruction}
  (sound : layout.Places feePayer instructions)

include sound

/-- What is placed are accounts of the instructions. -/
theorem mem_accounts {placed : Placed} (member : placed ∈ layout.placed) :
    placed.account ∈ Layout.accounts feePayer instructions :=
  sound.accounts ▸ List.mem_map_of_mem member

/-- The keys that are placed are those of the accounts. -/
theorem map_key : (layout.placed.map fun placed => placed.account.key) =
    (Layout.accounts feePayer instructions).map AccountMeta.key := by
  rw [← sound.accounts, List.map_map]
  rfl

/-- No key is placed twice. -/
theorem eq_of_key {first second : Placed} (one : first ∈ layout.placed)
    (other : second ∈ layout.placed) (same : first.account.key = second.account.key) :
    first = second := by
  have distinct : (layout.placed.map fun placed => placed.account.key).Nodup :=
    sound.map_key ▸ nodup_accounts
  exact List.inj_on_of_nodup_map distinct one other same

/-- The fee payer is the first of the own accounts. -/
theorem exists_statics : ∃ rest, layout.statics = .writable feePayer true :: rest := by
  have same := sound.accounts
  have own := sound.signersOwn
  rw [statics]
  cases placed : layout.placed with
  | nil =>
      rw [placed] at same
      cases same
  | cons first rest =>
      rw [placed, List.map_cons, accounts_eq, List.cons.injEq] at same
      have slot := own first (placed ▸ List.mem_cons_self) (by rw [same.1]; rfl)
      rw [List.filter_cons_of_pos (by rw [slot]; rfl), List.map_cons, same.1]
      exact ⟨_, rfl⟩

private theorem perm_takenKeys (isWritable : Bool) : (layout.takenKeys isWritable).Perm
    ((layout.fromTables isWritable).map fun placed => placed.account.key) := by
  have grouped : (((List.range layout.tables.length).map some).flatMap fun table =>
      (layout.fromTables isWritable).filter fun placed =>
        placed.slot.map Slot.table = table).Perm (layout.fromTables isWritable) := by
    apply Sequence.perm_flatMap_filter
    · exact List.nodup_range.map fun _ _ same => Option.some.inj same
    · intro placed member
      rw [fromTables, List.mem_filter, Bool.and_eq_true, Option.isSome_iff_exists] at member
      obtain ⟨present, ⟨slot, atSlot⟩, _⟩ := member
      obtain ⟨entry, atTable, _⟩ := sound.held placed present slot atSlot
      obtain ⟨inside, _⟩ := List.getElem?_eq_some_iff.mp atTable
      rw [atSlot]
      exact List.mem_map_of_mem (List.mem_range.mpr inside)
  rw [takenKeys_eq]
  simp only [map_fst_taken]
  rw [← List.map_flatMap]
  rw [List.flatMap_map] at grouped
  exact grouped.map _

/-- **Every account has one place** among the keys. -/
theorem perm_keys : layout.keys.Perm (layout.placed.map fun placed => placed.account.key) := by
  have own : layout.statics.map AccountMeta.key =
      (layout.placed.filter fun placed => placed.slot.isNone).map fun placed =>
        placed.account.key := by
    rw [statics, List.map_map]
    rfl
  have parts : layout.keys = layout.statics.map AccountMeta.key ++
      (layout.takenKeys true ++ layout.takenKeys false) := List.append_assoc _ _ _
  rw [parts, own]
  have taken := (sound.perm_takenKeys true).append (sound.perm_takenKeys false)
  refine (taken.append_left _).trans ?_
  rw [← List.map_append, ← List.map_append]
  exact perm_fromTables.map _

/-- No key has two places. -/
theorem nodup_keys : layout.keys.Nodup := by
  rw [sound.perm_keys.nodup_iff, sound.map_key]
  exact nodup_accounts

/-- The keys from the tables are those placed with a slot. -/
theorem mem_takenKeys_iff {isWritable : Bool} : key ∈ layout.takenKeys isWritable ↔
    ∃ placed ∈ layout.placed, placed.slot.isSome = true ∧ placed.account.isWritable = isWritable ∧
      placed.account.key = key := by
  rw [(sound.perm_takenKeys isWritable).mem_iff, fromTables]
  simp only [List.mem_map, List.mem_filter, Bool.and_eq_true, beq_iff_eq, and_assoc]

/-- Signers come first among the message's own accounts. -/
theorem pairwise_signers : layout.statics.Pairwise fun first second =>
    second.isSigner = true → first.isSigner = true :=
  Layout.pairwise_signers.sublist (sound.accounts ▸ sublist_statics)

/-- The own accounts that sign are all that sign. -/
theorem filter_isSigner : layout.statics.filter AccountMeta.isSigner =
    (Layout.accounts feePayer instructions).filter AccountMeta.isSigner := by
  rw [← sound.accounts, statics, List.filter_map, List.filter_map, List.filter_filter]
  congr 1
  apply List.filter_congr
  intro placed member
  by_cases signer : placed.account.isSigner = true
  · rw [sound.signersOwn placed member signer]
    exact Bool.and_true _
  · rw [Function.comp_apply, eq_false_of_ne_true signer]
    exact Bool.false_and _

/-- The own accounts that sign are the first ones. -/
theorem isSigner_iff_lt (index : Nat) (inside : index < layout.statics.length) :
    layout.statics[index].isSigner = true ↔ index < layout.signerCount :=
  Sequence.pairwise_iff_lt_countP.mp sound.pairwise_signers index inside

/-- The own accounts that are only read and do not sign are the last ones. -/
theorem privileged_iff_lt (index : Nat) (inside : index < layout.statics.length) :
    (layout.statics[index].isSigner || layout.statics[index].isWritable) = true ↔
      index < layout.statics.countP fun account => account.isSigner || account.isWritable := by
  have ordered := Layout.pairwise_privileged.sublist (sound.accounts ▸ sublist_statics)
  exact Sequence.pairwise_iff_lt_countP.mp ordered index inside

end Places

section Counts

variable {header : Header}

private theorem headerCount_eq_ok_iff {count : Nat} {byte : UInt8} :
    headerCount count = .ok byte ↔ byte.toNat = count := by
  unfold headerCount
  split
  case isTrue small =>
    rw [Except.ok.injEq, ← UInt8.toNat_inj, UInt8.toNat_ofNat', Nat.mod_eq_of_lt small]
    exact eq_comm
  case isFalse large =>
    refine iff_of_false Outcome.throw_ne_ok ?_
    rintro rfl
    exact large byte.toNat_lt

/-- The counts of a header are those of a layout. -/
structure Counted (layout : Layout) (header : Header) : Prop where
  required : header.required.toNat = layout.signerCount
  readonlySigned : header.readonlySigned.toNat =
    layout.statics.countP fun account => account.isSigner && !account.isWritable
  readonlyUnsigned : header.readonlyUnsigned.toNat =
    layout.statics.countP fun account => !account.isSigner && !account.isWritable

/-- Every signer is writable or read-only. -/
theorem writable_add_readonly :
    (layout.statics.countP fun account => account.isSigner && account.isWritable) +
      (layout.statics.countP fun account => account.isSigner && !account.isWritable) =
        layout.signerCount :=
  Sequence.countP_and_add_countP_and_not _ _

/-- Signers and read-only accounts without a signature are different accounts. -/
theorem signerCount_add_readonly_le : layout.signerCount +
    (layout.statics.countP fun account => !account.isSigner && !account.isWritable) ≤
      layout.statics.length := by
  rw [signerCount, List.length_eq_countP_add_countP AccountMeta.isSigner]
  apply Nat.add_le_add_left
  apply List.countP_mono_left
  intro account _ both
  rw [Bool.and_eq_true] at both
  simpa using both.1

/-- There is a header if its counts fit and so do the keys. -/
theorem header_eq_ok_iff : layout.header = .ok header ↔
    layout.Counted header ∧ layout.keys.length ≤ maxAccounts := by
  simp only [Layout.header, Outcome.bind_eq_ok_iff, headerCount_eq_ok_iff,
    Outcome.refuse_eq_ok_iff, Outcome.pure_eq_ok_iff, Nat.not_lt]
  constructor
  · rintro ⟨_, required, _, readonlySigned, _, readonlyUnsigned, fits, rfl⟩
    exact ⟨⟨required, readonlySigned, readonlyUnsigned⟩, fits⟩
  · rintro ⟨⟨required, readonlySigned, readonlyUnsigned⟩, fits⟩
    exact ⟨_, required, _, readonlySigned, _, readonlyUnsigned, fits, rfl⟩

end Counts

end LedgerClient.Layout
