import LedgerClient.Proofs.Message.Compilable

/-! # What a message takes from tables

A message refers to an address by its index in a table, and its lookups go through the tables in
the order in which they are listed. Each key that is eligible for it has one reference, to the
first place that lists it, and no other key has one (`LedgerClient.Message.compresses_of_compile`).
-/

namespace LedgerClient

namespace CompileOptions

variable (options : CompileOptions)

/-- The key at a place of the tables. -/
def listed? (slot : Layout.Slot) : Option PublicKey :=
  options.addressTables[slot.table]?.bind fun entry => entry.2[slot.index.toNat]?

/-- The first place of a key: no earlier table lists it, nor does its table at an earlier index. -/
structure FirstAt (key : PublicKey) (slot : Layout.Slot) : Prop where
  held : options.listed? slot = some key
  firstTable : ∀ earlier < slot.table, ∀ entry, options.addressTables[earlier]? = some entry →
    key ∉ entry.2
  firstIndex : ∀ earlier < slot.index, options.listed? ⟨slot.table, earlier⟩ ≠ some key

variable {options} {key : PublicKey} {slot other : Layout.Slot}

private theorem exists_of_listed? (held : options.listed? slot = some key) :
    ∃ entry, options.addressTables[slot.table]? = some entry ∧ key ∈ entry.2 := by
  obtain ⟨entry, atTable, atIndex⟩ := Option.bind_eq_some_iff.mp held
  exact ⟨entry, atTable, List.mem_of_getElem? atIndex⟩

/-- A key has one first place. -/
theorem FirstAt.unique (first : options.FirstAt key slot) (second : options.FirstAt key other) :
    slot = other := by
  obtain ⟨entry, atTable, listed⟩ := exists_of_listed? first.held
  obtain ⟨otherEntry, atOther, otherListed⟩ := exists_of_listed? second.held
  obtain ⟨table, index⟩ := slot
  obtain ⟨otherTable, otherIndex⟩ := other
  obtain rfl : table = otherTable := by
    rcases Nat.lt_trichotomy table otherTable with before | same | behind
    · exact (second.firstTable _ before _ atTable listed).elim
    · exact same
    · exact (first.firstTable _ behind _ atOther otherListed).elim
  obtain rfl : index = otherIndex := by
    rcases Nat.lt_trichotomy index.toNat otherIndex.toNat with before | same | behind
    · exact (second.firstIndex _ (UInt8.lt_iff_toNat_lt.mpr before) first.held).elim
    · exact UInt8.toNat_inj.mp same
    · exact (first.firstIndex _ (UInt8.lt_iff_toNat_lt.mpr behind) second.held).elim
  rfl

/-- A slot is the first place of its key. -/
theorem firstAt_of_slotFrom (checked : Layout.checkTables options.addressTables = .ok ())
    (found : Layout.slotFrom 0 key options.addressTables = some slot) :
    options.FirstAt key slot := by
  obtain ⟨before, entry, after, split, unlisted, listed, rfl⟩ :=
    (Layout.slotFrom_eq_some_iff 0).mp found
  have short := Layout.checkTables_eq_ok_iff.mp checked entry
    (split ▸ List.mem_append_right _ List.mem_cons_self)
  have inside := List.idxOf_lt_length_of_mem listed
  rw [Layout.maxTableLength] at short
  have index : (UInt8.ofNat (entry.2.idxOf key)).toNat = entry.2.idxOf key := by
    rw [UInt8.toNat_ofNat', Nat.mod_eq_of_lt (by omega)]
  have atTable : options.addressTables[0 + before.length]? = some entry := by
    rw [split, Nat.zero_add, List.getElem?_append_right (Nat.le_refl _), Nat.sub_self,
      List.getElem?_cons_zero]
  refine { held := ?_, firstTable := ?_, firstIndex := ?_ }
  · rw [listed?, atTable, Option.bind_some, index]
    exact List.getElem?_idxOf listed
  · intro earlier inFront other atOther
    rw [Nat.zero_add] at inFront
    rw [split, List.getElem?_append_left inFront] at atOther
    exact unlisted other (List.mem_of_getElem? atOther)
  · intro earlier inFront held
    rw [listed?, atTable, Option.bind_some] at held
    rw [UInt8.lt_iff_toNat_lt, index] at inFront
    obtain ⟨_, same⟩ := List.getElem?_eq_some_iff.mp held
    exact beq_eq_false_iff_ne.mp (List.not_of_lt_findIdx inFront) same

end CompileOptions

/-- An index that a message takes from a table. -/
@[ext]
structure Reference where
  slot : Layout.Slot
  isWritable : Bool
deriving DecidableEq

/-- The references of a lookup into the table that is listed at some position. -/
def TableLookup.references (lookup : TableLookup) (position : Nat) : List Reference :=
  lookup.writable.map (fun index => ⟨⟨position, index⟩, true⟩) ++
    lookup.readonly.map fun index => ⟨⟨position, index⟩, false⟩

/-- The references of a message whose lookups go into the tables listed at some positions. -/
def Message.references (message : Message) (positions : List Nat) : List Reference :=
  (positions.zip message.lookups).flatMap fun (position, lookup) => lookup.references position

namespace Layout

variable {layout : Layout} {feePayer : PublicKey} {instructions : List Instruction}
  {reference : Reference}

/-- The positions of the tables that an account comes from. -/
def positions (layout : Layout) : List Nat :=
  (layout.tables.zipIdx.filter fun entry => layout.isUsed entry.2).map Prod.snd

/-- The references of a layout into one table, to what may be written or to what is only read. -/
def referencesAt (layout : Layout) (position : Nat) (isWritable : Bool) : List Reference :=
  (layout.taken position isWritable).map fun taken => ⟨⟨position, taken.2⟩, isWritable⟩

/-- The references of a layout into its tables. -/
def references (layout : Layout) : List Reference :=
  layout.positions.flatMap fun position =>
    layout.referencesAt position true ++ layout.referencesAt position false

/-- The positions of the used tables ascend. -/
theorem pairwise_positions : layout.positions.Pairwise (· < ·) := by
  have ordered : (layout.tables.zipIdx.map Prod.snd).Pairwise (· < ·) := by
    rw [List.zipIdx_map_snd, ← List.range_eq_range']
    exact List.pairwise_lt_range
  exact ordered.sublist (List.filter_sublist.map Prod.snd)

private theorem Places.mem_positions_iff (sound : layout.Places feePayer instructions)
    {position : Nat} :
    position ∈ layout.positions ↔
      ∃ placed ∈ layout.placed, ∃ slot, placed.slot = some slot ∧ slot.table = position := by
  simp only [positions, List.mem_map, List.mem_filter]
  constructor
  · rintro ⟨entry, ⟨_, used⟩, rfl⟩
    obtain ⟨_, _, taken⟩ := isUsed_iff.mp used
    obtain ⟨placed, present, atSlot, _⟩ := mem_taken_iff.mp taken
    exact ⟨placed, present, _, atSlot, rfl⟩
  · rintro ⟨placed, present, slot, atSlot, rfl⟩
    obtain ⟨entry, atTable, _⟩ := sound.held placed present slot atSlot
    refine ⟨(entry, slot.table), ⟨List.mem_zipIdx_iff_getElem?.mpr atTable, ?_⟩, rfl⟩
    exact isUsed_iff.mpr ⟨_, (_, slot.index), mem_taken_iff.mpr ⟨placed, present, atSlot, rfl, rfl⟩⟩

/-- A place refers to the account that is placed there. -/
def Refers (layout : Layout) (reference : Reference) : Prop :=
  ∃ placed ∈ layout.placed,
    placed.slot = some reference.slot ∧ placed.account.isWritable = reference.isWritable

private theorem mem_referencesAt_iff {position : Nat} {isWritable : Bool} :
    reference ∈ layout.referencesAt position isWritable ↔
      reference.slot.table = position ∧ reference.isWritable = isWritable ∧
        layout.Refers reference := by
  rw [referencesAt, List.mem_map]
  constructor
  · rintro ⟨taken, member, rfl⟩
    obtain ⟨placed, present, atSlot, same, _⟩ := mem_taken_iff.mp member
    exact ⟨rfl, rfl, placed, present, atSlot, same⟩
  · rintro ⟨rfl, rfl, placed, present, atSlot, same⟩
    exact ⟨(placed.account.key, reference.slot.index),
      mem_taken_iff.mpr ⟨placed, present, atSlot, same, rfl⟩, rfl⟩

private theorem Places.mem_references_iff (sound : layout.Places feePayer instructions) :
    reference ∈ layout.references ↔ layout.Refers reference := by
  simp only [references, List.mem_flatMap, List.mem_append, mem_referencesAt_iff,
    sound.mem_positions_iff]
  constructor
  · rintro ⟨_, _, ⟨_, _, refers⟩ | ⟨_, _, refers⟩⟩
    · exact refers
    · exact refers
  · intro refers
    have ⟨placed, present, atSlot, _⟩ := refers
    refine ⟨_, ⟨placed, present, _, atSlot, rfl⟩, ?_⟩
    cases same : reference.isWritable with
    | true => exact .inl ⟨rfl, rfl, refers⟩
    | false => exact .inr ⟨rfl, rfl, refers⟩

/-- A table holds one key at an index, so an account is taken from it by one index. -/
theorem Places.nodup_referencesAt (sound : layout.Places feePayer instructions) (position : Nat)
    (isWritable : Bool) : (layout.referencesAt position isWritable).Nodup := by
  have distinct : ((layout.taken position isWritable).map Prod.fst).Nodup := by
    rw [map_fst_taken]
    have keys : (layout.placed.map fun placed => placed.account.key).Nodup :=
      sound.map_key ▸ nodup_accounts
    exact keys.sublist ((List.filter_sublist.trans List.filter_sublist).map _)
  refine distinct.of_map.map_on ?_
  intro first one second other same
  obtain ⟨placed, present, atSlot, _, key⟩ := mem_taken_iff.mp one
  obtain ⟨otherPlaced, otherPresent, atOther, _, otherKey⟩ := mem_taken_iff.mp other
  obtain ⟨entry, atTable, holds⟩ := sound.held placed present _ atSlot
  obtain ⟨otherEntry, atOtherTable, otherHolds⟩ := sound.held otherPlaced otherPresent _ atOther
  have index : first.2 = second.2 := congrArg (fun reference => reference.slot.index) same
  rw [atTable, Option.some.injEq] at atOtherTable
  rw [← atOtherTable, ← index, holds, Option.some.injEq, key, otherKey] at otherHolds
  exact Prod.ext otherHolds index

/-- No reference is made twice. -/
theorem Places.nodup_references (sound : layout.Places feePayer instructions) :
    layout.references.Nodup := by
  rw [references, List.nodup_flatMap]
  constructor
  · intro position _
    rw [List.nodup_append]
    refine ⟨sound.nodup_referencesAt position true, sound.nodup_referencesAt position false, ?_⟩
    rintro first one second other rfl
    have writable := (mem_referencesAt_iff.mp one).2.1
    rw [(mem_referencesAt_iff.mp other).2.1] at writable
    cases writable
  · refine pairwise_positions.imp ?_
    intro first second before reference one other
    have tableOf {position : Nat} (member : reference ∈ layout.referencesAt position true ++
        layout.referencesAt position false) : reference.slot.table = position := by
      rcases List.mem_append.mp member with writable | readonly
      · exact (mem_referencesAt_iff.mp writable).1
      · exact (mem_referencesAt_iff.mp readonly).1
    exact Nat.ne_of_lt before ((tableOf one).symm.trans (tableOf other))

variable {options : CompileOptions} {key : PublicKey} {slot : Slot} {account : AccountMeta}

section Placed

variable (payer : options.chooseFeePayer instructions = .ok feePayer)
  (checked : checkTables options.addressTables = .ok ())

/-- An account that comes from a table may be written if some instruction lets it be. -/
theorem isWritable_iff_of_mem_place
    (member : ⟨account, some slot⟩ ∈ (place feePayer instructions options.addressTables).placed) :
    account.isWritable = true ↔ Marked AccountMeta.isWritable instructions account.key := by
  obtain ⟨listed, other, _⟩ := mem_place_iff.mp member
  rw [isWritable_iff listed]
  apply or_iff_right
  intro paying
  rw [(isSigner_iff listed).mpr (.inl paying)] at other
  cases other

include payer checked

/-- The message's own keys are the needed ones that are not eligible. -/
theorem mem_own_iff : key ∈
      (place feePayer instructions options.addressTables).statics.map AccountMeta.key ↔
    key ∈ options.neededKeys instructions ∧ ¬ options.Eligible instructions key := by
  have sound : (place feePayer instructions options.addressTables).Places feePayer instructions :=
    places_place checked
  rw [CompileOptions.mem_neededKeys_iff payer, CompileOptions.eligible_iff payer, List.mem_map]
  simp only [mem_statics_iff]
  constructor
  · rintro ⟨account, own, rfl⟩
    refine ⟨List.mem_map_of_mem (sound.mem_accounts own), ?_⟩
    rintro ⟨other, slot, taken, same⟩
    cases sound.eq_of_key own taken same.symm
  · rintro ⟨needed, untaken⟩
    rw [← sound.map_key] at needed
    obtain ⟨⟨account, _ | slot⟩, member, rfl⟩ := List.mem_map.mp needed
    · exact ⟨account, member, rfl⟩
    · exact (untaken ⟨account, slot, member, rfl⟩).elim

/-- The place of an account in the tables is the first place of its key. -/
theorem exists_mem_place_iff :
    (∃ account, ⟨account, some slot⟩ ∈
      (place feePayer instructions options.addressTables).placed ∧ account.key = key) ↔
    options.Eligible instructions key ∧ options.FirstAt key slot := by
  rw [CompileOptions.eligible_iff payer]
  constructor
  · rintro ⟨account, member, rfl⟩
    exact ⟨⟨account, slot, member, rfl⟩,
      CompileOptions.firstAt_of_slotFrom checked (mem_place_iff.mp member).2.2.2⟩
  · rintro ⟨⟨account, other, member, rfl⟩, first⟩
    have found := CompileOptions.firstAt_of_slotFrom checked (mem_place_iff.mp member).2.2.2
    exact ⟨account, first.unique found ▸ member, rfl⟩

/-- **What references lead to**: the first places of the eligible keys. -/
theorem refers_iff :
    (place feePayer instructions options.addressTables).Refers reference ↔
      ∃ key, options.Eligible instructions key ∧ options.FirstAt key reference.slot ∧
        (reference.isWritable = true ↔ Marked AccountMeta.isWritable instructions key) := by
  constructor
  · rintro ⟨⟨account, _⟩, member, rfl, same⟩
    obtain ⟨eligible, first⟩ := (exists_mem_place_iff payer checked).mp ⟨account, member, rfl⟩
    exact ⟨account.key, eligible, first, same ▸ isWritable_iff_of_mem_place member⟩
  · rintro ⟨key, eligible, first, writable⟩
    obtain ⟨account, member, rfl⟩ := (exists_mem_place_iff payer checked).mpr ⟨eligible, first⟩
    refine ⟨_, member, rfl, ?_⟩
    rw [Bool.eq_iff_iff, writable]
    exact isWritable_iff_of_mem_place member

private theorem exists_first (eligible : options.Eligible instructions key) :
    ∃ reference : Reference, options.FirstAt key reference.slot ∧
      (reference.isWritable = true ↔ Marked AccountMeta.isWritable instructions key) := by
  obtain ⟨account, slot, member, rfl⟩ := (CompileOptions.eligible_iff payer).mp eligible
  exact ⟨⟨slot, account.isWritable⟩,
    ((exists_mem_place_iff payer checked).mp ⟨account, member, rfl⟩).2,
    isWritable_iff_of_mem_place member⟩

/-- The references are one for each eligible key, at its first place. -/
theorem mem_references_place_iff :
    reference ∈ (place feePayer instructions options.addressTables).references ↔
      ∃ key, options.Eligible instructions key ∧ options.FirstAt key reference.slot ∧
        (reference.isWritable = true ↔ Marked AccountMeta.isWritable instructions key) := by
  have sound : (place feePayer instructions options.addressTables).Places feePayer instructions :=
    places_place checked
  rw [sound.mem_references_iff, refers_iff payer checked]

/-- **An eligible key has one reference**, as it has one first place. -/
theorem exists_filter_references_eq (eligible : options.Eligible instructions key) :
    ∃ reference : Reference, options.FirstAt key reference.slot ∧
      (reference.isWritable = true ↔ Marked AccountMeta.isWritable instructions key) ∧
      (place feePayer instructions options.addressTables).references.filter
        (fun other => options.listed? other.slot = some key) = [reference] := by
  have sound : (place feePayer instructions options.addressTables).Places feePayer instructions :=
    places_place checked
  obtain ⟨reference, first, writable⟩ := exists_first payer checked eligible
  refine ⟨reference, first, writable, Sequence.filter_eq_singleton sound.nodup_references ?_⟩
  intro other
  rw [mem_references_place_iff payer checked, decide_eq_true_eq]
  constructor
  · rintro ⟨⟨found, _, otherFirst, otherWritable⟩, held⟩
    obtain rfl : found = key := by
      rw [otherFirst.held, Option.some.injEq] at held
      exact held
    have slot := otherFirst.unique first
    have flag : other.isWritable = reference.isWritable :=
      Bool.eq_iff_iff.mpr (otherWritable.trans writable.symm)
    exact Reference.ext slot flag
  · rintro rfl
    exact ⟨⟨key, eligible, first, writable⟩, first.held⟩

/-- A table is used if it holds the first place of an eligible key. -/
theorem mem_positions_place_iff {position : Nat} :
    position ∈ (place feePayer instructions options.addressTables).positions ↔
      ∃ key slot, options.Eligible instructions key ∧ options.FirstAt key slot ∧
        slot.table = position := by
  have sound : (place feePayer instructions options.addressTables).Places feePayer instructions :=
    places_place checked
  rw [sound.mem_positions_iff]
  constructor
  · rintro ⟨⟨account, _⟩, member, slot, rfl, rfl⟩
    obtain ⟨eligible, first⟩ := (exists_mem_place_iff payer checked).mp ⟨account, member, rfl⟩
    exact ⟨account.key, slot, eligible, first, rfl⟩
  · rintro ⟨key, slot, eligible, first, rfl⟩
    obtain ⟨account, member, _⟩ := (exists_mem_place_iff payer checked).mpr ⟨eligible, first⟩
    exact ⟨_, member, slot, rfl, rfl⟩

end Placed

end Layout

namespace Message

variable {instructions : List Instruction} {blockhash : Hash} {options : CompileOptions}
  {message : Message} {layout : Layout}

private theorem Follows.references_eq (follows : message.Follows instructions layout) :
    message.references layout.positions = layout.references := by
  rw [references, follows.lookups, Layout.lookups_eq, Layout.positions, List.zip_map',
    List.flatMap_map, Layout.references, Layout.positions, List.flatMap_map]
  simp only [TableLookup.references, List.map_map]
  rfl

/-- Lookups come in the order of their tables, each with the indices taken from its table. -/
theorem Follows.forall₂_lookups (follows : message.Follows instructions layout) :
    List.Forall₂ (fun position lookup =>
      (∃ addresses, layout.tables[position]? = some (lookup.table, addresses)) ∧
        (layout.taken position true).map Prod.snd = lookup.writable ∧
        (layout.taken position false).map Prod.snd = lookup.readonly)
      layout.positions message.lookups := by
  rw [follows.lookups, Layout.lookups_eq, Layout.positions, List.forall₂_map_left_iff,
    List.forall₂_map_right_iff, List.forall₂_same]
  intro entry member
  have listed := List.mem_zipIdx_iff_getElem?.mp (List.mem_of_mem_filter member)
  exact ⟨⟨_, listed⟩, rfl, rfl⟩

/-- A message takes keys from the tables of its options. -/
structure Compresses (message : Message) (options : CompileOptions)
    (instructions : List Instruction) (positions : List Nat) : Prop where
  /-- The keys that are needed are the message's own, unless they are eligible for a lookup. -/
  own : ∀ key, key ∈ message.keys ↔
    key ∈ options.neededKeys instructions ∧ ¬ options.Eligible instructions key
  /-- References lead to eligible keys. -/
  taken : ∀ reference ∈ message.references positions, ∃ key, options.Eligible instructions key ∧
    options.listed? reference.slot = some key
  /-- One reference leads to an eligible key: the one to its first place, as writable if some
  instruction lets the key be written. -/
  once : ∀ key, options.Eligible instructions key → ∃ reference,
    options.FirstAt key reference.slot ∧
      (reference.isWritable = true ↔ Marked AccountMeta.isWritable instructions key) ∧
      (message.references positions).filter
        (fun other => options.listed? other.slot = some key) = [reference]
  /-- There is a lookup for each table that holds the first place of an eligible key. -/
  used : ∀ position, position ∈ positions ↔ ∃ key slot, options.Eligible instructions key ∧
    options.FirstAt key slot ∧ slot.table = position
  /-- Lookups come in the order of the tables, and each names its table. -/
  inOrder : positions.Pairwise (· < ·) ∧ List.Forall₂ (fun position lookup => ∃ addresses,
    options.addressTables[position]? = some (lookup.table, addresses)) positions message.lookups
  version : options.version = none →
    (message.version = .v0 ↔ ∃ key, options.Eligible instructions key)

/-- **Compiling takes from tables what it can**, and each key once. -/
theorem compresses_of_compile (done : compile instructions blockhash options = .ok message) :
    ∃ positions, message.Compresses options instructions positions := by
  obtain ⟨feePayer, payer, checked, _, follows⟩ := exists_follows_place done
  refine ⟨(Layout.place feePayer instructions options.addressTables).positions,
    { own := ?own, taken := ?taken, once := ?once,
      used := fun _ => Layout.mem_positions_place_iff payer checked,
      inOrder :=
        ⟨Layout.pairwise_positions, follows.forall₂_lookups.imp fun _ _ lookup => lookup.1⟩,
      version := ?version }⟩
  case own =>
    intro key
    rw [follows.keys]
    exact Layout.mem_own_iff payer checked
  case taken =>
    rw [follows.references_eq]
    intro reference member
    obtain ⟨key, eligible, first, _⟩ := (Layout.mem_references_place_iff payer checked).mp member
    exact ⟨key, eligible, first.held⟩
  case once =>
    rw [follows.references_eq]
    intro key eligible
    exact Layout.exists_filter_references_eq payer checked eligible
  case version =>
    intro unset
    rw [version_eq_v0_iff done, CompileOptions.UsesV0, unset]
    simp only [reduceCtorEq, false_or, true_and]

/-- Two instructions whose accounts are in tables, one of them read before it is written. -/
def gathering : List Instruction :=
  [⟨uniformKey 3, [.writable (uniformKey 1) true, .writable (uniformKey 5) false,
      .readonly (uniformKey 6) false], .ok []⟩,
    ⟨uniformKey 3, [.writable (uniformKey 6) false, .readonly (uniformKey 7) false], .ok []⟩]

/-- Tables that overlap. The first lists the payer and the program, the second nothing that is
needed, and the third has the address of the first. -/
def gatheringOptions : CompileOptions :=
  ⟨none, [(uniformKey 8, [uniformKey 1, uniformKey 3, uniformKey 6, uniformKey 6]),
    (uniformKey 9, [uniformKey 2]), (uniformKey 8, [uniformKey 6, uniformKey 5, uniformKey 7])],
    none⟩

/-- The message of the gathering. -/
def gatheringMessage : Message :=
  ofParts .v0 ⟨1, 0, 1⟩ [uniformKey 1, uniformKey 3] .zero
    [⟨1, [0, 3, 2], []⟩, ⟨1, [2, 4], []⟩] [⟨uniformKey 8, [2], []⟩, ⟨uniformKey 8, [1], [2]⟩]

/-- A message that takes keys from two of three tables. -/
theorem compresses_gathering : compile gathering .zero gatheringOptions = .ok gatheringMessage ∧
    ∃ positions, gatheringMessage.Compresses gatheringOptions gathering positions :=
  ⟨rfl, compresses_of_compile rfl⟩

end Message

end LedgerClient
