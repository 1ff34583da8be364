import LedgerClient.Proofs.Message.References

/-! # The order of keys

The highest standing that some mention gives a key decides in which block of the message it
stands, and inside a block keys come in order of the first mention that gives this standing. The
indices that are taken from a table come in the same order
(`LedgerClient.Message.ordered_of_compile`).
-/

namespace LedgerClient

open AccountMeta (isSigner isWritable)

/-- What the mentions of a key let it do. -/
inductive Standing where
  /-- One mention lets it sign and be written. -/
  | writableSigner
  /-- It signs. -/
  | readonlySigner
  /-- It may be written. -/
  | writable
  | readonly
deriving DecidableEq

namespace Standing

/-- The mentions that give a key a standing, if none gives it a higher one. -/
def earnedBy : Standing → AccountMeta → Bool
  | writableSigner, mention => mention.isSigner && mention.isWritable
  | readonlySigner, mention => mention.isSigner
  | writable, mention => mention.isWritable
  | readonly, _ => true

/-- Standings, the highest first. -/
def inOrder : List Standing := [writableSigner, readonlySigner, writable, readonly]

/-- The highest standing that some mention gives a key. -/
def of? (listed : List AccountMeta) (key : PublicKey) : Option Standing :=
  inOrder.find? fun standing => Layout.gives standing.earnedBy listed key

/-- How many mentions come before the first one that gives a key a standing. -/
def firstMention (standing : Standing) (listed : List AccountMeta) (key : PublicKey) : Nat :=
  listed.findIdx fun mention => mention.key == key && standing.earnedBy mention

/-- Chosen keys of a standing, in order of the first mention that gives it to them. -/
structure Lists (standing : Standing) (listed : List AccountMeta) (chosen : PublicKey → Prop)
    (keys : List PublicKey) : Prop where
  mem_iff : ∀ key, key ∈ keys ↔ of? listed key = some standing ∧ chosen key
  ordered : keys.Pairwise fun first second =>
    standing.firstMention listed first < standing.firstMention listed second

/-- The keys of a standing, in order of the first mention that gives it to them. -/
def keys (standing : Standing) (listed : List AccountMeta) : List PublicKey :=
  ((listed.filter standing.earnedBy).map AccountMeta.key).eraseDups.filter fun key =>
    of? listed key = some standing

variable {standing : Standing} {listed : List AccountMeta} {key : PublicKey}
  {chosen : PublicKey → Prop} {kept : PublicKey → Bool}

private theorem gives_of_of? (holds : of? listed key = some standing) :
    Layout.gives standing.earnedBy listed key = true := by
  have earned := List.find?_some holds
  exact earned

private theorem mem_keys_iff : key ∈ standing.keys listed ↔ of? listed key = some standing := by
  rw [keys, List.mem_filter, decide_eq_true_eq]
  apply and_iff_right_of_imp
  intro holds
  obtain ⟨mention, member, same, earned⟩ := Layout.gives_iff.mp (gives_of_of? holds)
  exact List.mem_eraseDups.mpr
    (List.mem_map.mpr ⟨mention, List.mem_filter.mpr ⟨member, earned⟩, same⟩)

private theorem mem_ranked_of_of? (holds : of? listed key = some standing) :
    key ∈ Layout.ranked listed := by
  obtain ⟨mention, member, same, _⟩ := Layout.gives_iff.mp (gives_of_of? holds)
  exact Layout.mem_ranked_iff.mpr ⟨mention, member, same⟩

/-- The keys of a standing come in order of their first mention. -/
theorem pairwise_keys : (standing.keys listed).Pairwise fun first second =>
    standing.firstMention listed first < standing.firstMention listed second :=
  (Sequence.pairwise_eraseDups_filter standing.earnedBy listed).filter _

/-- Leaving keys out keeps the order of the others. -/
theorem lists_filter
    (same : ∀ key, of? listed key = some standing → (kept key = true ↔ chosen key)) :
    standing.Lists listed chosen ((standing.keys listed).filter kept) where
  mem_iff key := by
    rw [List.mem_filter, mem_keys_iff]
    exact and_congr_right fun holds => same key holds
  ordered := pairwise_keys.filter _

private theorem of?_eq : of? listed key =
    if Layout.gives writableSigner.earnedBy listed key = true then some writableSigner
    else if Layout.gives isSigner listed key = true then some readonlySigner
    else if Layout.gives isWritable listed key = true then some writable
    else if Layout.gives readonly.earnedBy listed key = true then some readonly
    else none := by
  have signs : Layout.gives readonlySigner.earnedBy listed key =
      Layout.gives isSigner listed key := rfl
  have writes : Layout.gives writable.earnedBy listed key =
      Layout.gives isWritable listed key := rfl
  simp only [of?, inOrder, List.find?_cons, List.find?_nil, signs, writes]
  cases Layout.gives writableSigner.earnedBy listed key <;>
    cases Layout.gives isSigner listed key <;> cases Layout.gives isWritable listed key <;>
      cases Layout.gives readonly.earnedBy listed key <;> rfl

/-- A mention that lets a key sign and be written lets it sign, and lets it be written. -/
theorem gives_of_writableSigner (both : Layout.gives writableSigner.earnedBy listed key = true) :
    Layout.gives isSigner listed key = true ∧ Layout.gives isWritable listed key = true := by
  obtain ⟨mention, member, same, earned⟩ := Layout.gives_iff.mp both
  rw [earnedBy, Bool.and_eq_true] at earned
  exact ⟨Layout.gives_iff.mpr ⟨mention, member, same, earned.1⟩,
    Layout.gives_iff.mpr ⟨mention, member, same, earned.2⟩⟩

private theorem of?_eq_writableSigner_iff : of? listed key = some writableSigner ↔
    Layout.gives writableSigner.earnedBy listed key = true := by
  rw [of?_eq]
  grind

private theorem of?_eq_readonlySigner_iff : of? listed key = some readonlySigner ↔
    Layout.gives isSigner listed key = true ∧
      ¬ Layout.gives writableSigner.earnedBy listed key = true := by
  rw [of?_eq]
  grind

private theorem of?_eq_writable_iff : of? listed key = some writable ↔
    Layout.gives isWritable listed key = true ∧ ¬ Layout.gives isSigner listed key = true := by
  have both := @gives_of_writableSigner listed key
  rw [of?_eq]
  grind

private theorem of?_eq_readonly_iff : of? listed key = some readonly ↔
    Layout.gives readonly.earnedBy listed key = true ∧
      ¬ Layout.gives isSigner listed key = true ∧ ¬ Layout.gives isWritable listed key = true := by
  have both := @gives_of_writableSigner listed key
  rw [of?_eq]
  grind

/-- A key keeps its place where only other mentions of its kind are counted. -/
theorem keys_eq {isSigner isWritable : Bool}
    (same : ∀ mention ∈ listed, of? listed mention.key = some standing →
      standing.earnedBy mention =
        (mention.isSigner == isSigner && mention.isWritable == isWritable)) :
    standing.keys listed = (Layout.mentioned isSigner isWritable listed).filter fun key =>
      of? listed key = some standing := by
  rw [keys, Layout.mentioned, Layout.block, ← Sequence.eraseDups_filter,
    ← Sequence.eraseDups_filter, List.filter_map, List.filter_map, List.filter_filter,
    List.filter_filter]
  congr 2
  apply List.filter_congr
  intro mention member
  rw [Function.comp_apply]
  by_cases holds : of? listed mention.key = some standing
  · rw [same mention member holds]
  · rw [decide_eq_false holds, Bool.false_and, Bool.false_and]

private theorem not_of_not_gives {privilege : AccountMeta → Bool} {mention : AccountMeta}
    (none : ¬ Layout.gives privilege listed mention.key = true) (member : mention ∈ listed) :
    privilege mention = false := by
  rw [← Bool.not_eq_true]
  intro given
  exact none (Layout.gives_iff.mpr ⟨mention, member, rfl, given⟩)

private theorem gives_writableSigner_iff : Layout.gives writableSigner.earnedBy listed key = true ↔
    key ∈ Layout.mentioned true true listed := by
  simp [Layout.gives_iff_mentioned, earnedBy]

/-- The keys that sign and are written stand as the mentions list them. -/
theorem keys_writableSigner : writableSigner.keys listed = Layout.mentioned true true listed := by
  have same : ∀ mention ∈ listed, of? listed mention.key = some writableSigner →
      writableSigner.earnedBy mention =
        (mention.isSigner == true && mention.isWritable == true) := by
    intro mention _ _
    rw [earnedBy, beq_true, beq_true]
  rw [keys_eq same, List.filter_eq_self]
  intro key member
  rw [decide_eq_true_eq, of?_eq_writableSigner_iff, gives_writableSigner_iff]
  exact member

/-- The other signers stand as the mentions list them. -/
theorem keys_readonlySigner : readonlySigner.keys listed =
    (Layout.mentioned true false listed).filter fun key =>
      key ∉ Layout.mentioned true true listed := by
  have same : ∀ mention ∈ listed, of? listed mention.key = some readonlySigner →
      readonlySigner.earnedBy mention =
        (mention.isSigner == true && mention.isWritable == false) := by
    intro mention member holds
    have both : (mention.isSigner && mention.isWritable) = false :=
      not_of_not_gives (of?_eq_readonlySigner_iff.mp holds).2 member
    change mention.isSigner = _
    revert both
    cases mention.isSigner <;> cases mention.isWritable <;> decide
  rw [keys_eq same]
  apply List.filter_congr
  intro key member
  rw [decide_eq_decide, of?_eq_readonlySigner_iff, gives_writableSigner_iff]
  exact and_iff_right (Layout.signs_iff_mentioned.mpr (.inr member))

/-- Writable keys are those that no mention lets sign. -/
theorem keys_writable : writable.keys listed =
    (Layout.mentioned false true listed).filter fun key => !Layout.gives isSigner listed key := by
  have same : ∀ mention ∈ listed, of? listed mention.key = some writable →
      writable.earnedBy mention = (mention.isSigner == false && mention.isWritable == true) := by
    intro mention member holds
    have other := not_of_not_gives (of?_eq_writable_iff.mp holds).2 member
    rw [earnedBy, other, beq_self_eq_true, Bool.true_and, beq_true]
  rw [keys_eq same]
  apply List.filter_congr
  intro key member
  rw [Bool.eq_iff_iff, decide_eq_true_eq, of?_eq_writable_iff, Bool.not_eq_true', Bool.not_eq_true]
  exact and_iff_right (Layout.writes_iff_mentioned.mpr (.inr member))

/-- Read-only keys are those that no mention gives a privilege. -/
theorem keys_readonly : readonly.keys listed =
    (Layout.mentioned false false listed).filter fun key =>
      !Layout.gives isSigner listed key && !Layout.gives isWritable listed key := by
  have same : ∀ mention ∈ listed, of? listed mention.key = some readonly →
      readonly.earnedBy mention = (mention.isSigner == false && mention.isWritable == false) := by
    intro mention member holds
    obtain ⟨_, silent, unwritten⟩ := of?_eq_readonly_iff.mp holds
    rw [earnedBy, not_of_not_gives silent member, not_of_not_gives unwritten member]
    rfl
  rw [keys_eq same]
  apply List.filter_congr
  intro key member
  rw [Bool.eq_iff_iff, decide_eq_true_eq, of?_eq_readonly_iff, Bool.and_eq_true, Bool.not_eq_true',
    Bool.not_eq_true', Bool.not_eq_true, Bool.not_eq_true]
  apply and_iff_right
  exact Layout.gives_iff.mpr ⟨_, Layout.mem_mentioned_iff.mp member, rfl, rfl⟩

/-- **Keys come in blocks**, one for each standing. -/
theorem ranked_eq_keys : Layout.ranked listed = writableSigner.keys listed ++
    readonlySigner.keys listed ++ writable.keys listed ++ readonly.keys listed := by
  rw [Layout.ranked_eq, Layout.signerKeys, Layout.otherKeys, keys_writableSigner,
    keys_readonlySigner, keys_writable, keys_readonly, List.append_assoc _ _ (List.filter _ _)]

/-- Among ranked keys of one standing there are only those of its block. -/
theorem filter_ranked (only : ∀ key ∈ Layout.ranked listed, kept key = true →
    of? listed key = some standing) :
    (Layout.ranked listed).filter kept = (standing.keys listed).filter kept := by
  have others (other : Standing) (different : other ≠ standing) :
      (other.keys listed).filter kept = [] := by
    apply List.filter_eq_nil_iff.mpr
    intro key member keeps
    have holds := mem_keys_iff.mp member
    rw [only key (mem_ranked_of_of? holds) keeps, Option.some.injEq] at holds
    exact different holds.symm
  rw [ranked_eq_keys, List.filter_append, List.filter_append, List.filter_append]
  cases standing <;> simp (disch := decide) only [others, List.append_nil, List.nil_append]

/-- The standing of a key that does not sign. -/
def unsigned (isWritable : Bool) : Standing := if isWritable then writable else readonly

private theorem unsigned_inj {first second : Bool} (same : unsigned first = unsigned second) :
    first = second := by
  revert first second
  decide

private theorem of?_eq_unsigned (member : key ∈ Layout.ranked listed)
    (silent : ¬ Layout.gives isSigner listed key = true) :
    of? listed key = some (unsigned (Layout.gives AccountMeta.isWritable listed key)) := by
  cases written : Layout.gives AccountMeta.isWritable listed key with
  | true => exact of?_eq_writable_iff.mpr ⟨written, silent⟩
  | false =>
      obtain ⟨mention, present, same⟩ := Layout.mem_ranked_iff.mp member
      refine of?_eq_readonly_iff.mpr ⟨?_, silent, Bool.eq_false_iff.mp written⟩
      exact Layout.gives_iff.mpr ⟨mention, present, same, rfl⟩

end Standing

namespace Layout

variable {feePayer key : PublicKey} {instructions : List Instruction}
  {tables : List (PublicKey × List PublicKey)} {slot : Slot}

/-- The place of a key in the tables, unless the key signs or is invoked. -/
def slot? (instructions : List Instruction) (tables : List (PublicKey × List PublicKey))
    (key : PublicKey) : Option Slot :=
  if gives isSigner (mentions instructions) key || (programs instructions).contains key then none
  else slotFrom 0 key tables

private theorem placed_eq : (place feePayer instructions tables).placed =
    ⟨.writable feePayer true, none⟩ ::
      ((ranked (mentions instructions)).filter (· ≠ feePayer)).map fun key =>
        ⟨granted (mentions instructions) key, slot? instructions tables key⟩ := by
  rw [place, accounts_eq, List.map_cons, List.map_map]
  rfl

/-- The message's own keys are the payer and the ranked keys without a place in the tables. -/
theorem map_key_statics : (place feePayer instructions tables).statics.map AccountMeta.key =
    feePayer :: (ranked (mentions instructions)).filter fun key =>
      key ≠ feePayer ∧ slot? instructions tables key = none := by
  rw [statics, placed_eq, List.filter_cons_of_pos rfl, List.filter_map, List.filter_filter,
    List.map_cons, List.map_map, List.map_cons, List.map_map]
  refine congrArg₂ List.cons rfl ((List.map_id _).trans (List.filter_congr ?_))
  intro key _
  rw [Bool.eq_iff_iff, Bool.and_eq_true, Function.comp_apply, Option.isNone_iff_eq_none,
    decide_eq_true_eq, decide_eq_true_eq]
  exact and_comm

private theorem map_fst_taken_place (table : Nat) (isWritable : Bool) :
    ((place feePayer instructions tables).taken table isWritable).map Prod.fst =
      (ranked (mentions instructions)).filter fun key =>
        key ≠ feePayer ∧ gives AccountMeta.isWritable (mentions instructions) key = isWritable ∧
          (slot? instructions tables key).map Slot.table = some table := by
  have payerOwn : ¬ ((⟨.writable feePayer true, none⟩ : Placed).slot.isSome &&
      (⟨.writable feePayer true, none⟩ : Placed).account.isWritable == isWritable) = true := by
    rw [Option.isSome_none, Bool.false_and]
    exact Bool.false_ne_true
  rw [map_fst_taken, fromTables, placed_eq, List.filter_cons, if_neg payerOwn, List.filter_map,
    List.filter_filter, List.filter_map, List.filter_filter, List.map_map]
  refine (List.map_id _).trans (List.filter_congr ?_)
  intro key _
  rw [Bool.eq_iff_iff]
  simp only [Function.comp_apply, granted, Bool.and_eq_true, decide_eq_true_eq, beq_iff_eq]
  constructor
  · rintro ⟨atTable, ⟨_, writable⟩, other⟩
    exact ⟨other, writable, atTable⟩
  · rintro ⟨other, writable, atTable⟩
    refine ⟨atTable, ⟨?_, writable⟩, other⟩
    exact Option.isSome_map.symm.trans (atTable ▸ Option.isSome_some)

private theorem mem_placed_iff :
    (∃ account, ⟨account, some slot⟩ ∈ (place feePayer instructions tables).placed ∧
      account.key = key) ↔
    key ∈ ranked (mentions instructions) ∧ key ≠ feePayer ∧
      slot? instructions tables key = some slot := by
  simp only [placed_eq, List.mem_cons, List.mem_map, List.mem_filter, Placed.mk.injEq,
    decide_eq_true_eq]
  constructor
  · rintro ⟨account, ⟨_, impossible⟩ | ⟨key, ⟨member, other⟩, rfl, found⟩, rfl⟩
    · cases impossible
    · exact ⟨member, other, found⟩
  · rintro ⟨member, other, found⟩
    exact ⟨_, .inr ⟨key, ⟨member, other⟩, rfl, found⟩, rfl⟩

/-- No signer is taken from a table. -/
theorem not_signs_of_slot? (found : slot? instructions tables key = some slot) :
    ¬ gives isSigner (mentions instructions) key = true := by
  intro signs
  rw [slot?, signs, Bool.true_or, if_pos rfl] at found
  cases found

end Layout

namespace CompileOptions

variable {options : CompileOptions} {instructions : List Instruction} {feePayer key : PublicKey}

/-- The eligible keys are those that have a slot and do not pay. -/
theorem eligible_iff_slot? (payer : options.chooseFeePayer instructions = .ok feePayer) :
    options.Eligible instructions key ↔
      key ∈ Layout.ranked (Layout.mentions instructions) ∧ key ≠ feePayer ∧
        Layout.slot? instructions options.addressTables key ≠ none := by
  rw [eligible_iff payer, exists_comm]
  simp only [Layout.mem_placed_iff, exists_and_left, Option.ne_none_iff_exists']

/-- A key that is taken from the table listed at a position. -/
def TakenAt (options : CompileOptions) (instructions : List Instruction) (position : Nat)
    (key : PublicKey) : Prop :=
  options.Eligible instructions key ∧ ∃ index, options.FirstAt key ⟨position, index⟩

private theorem takenAt_iff (payer : options.chooseFeePayer instructions = .ok feePayer)
    (checked : Layout.checkTables options.addressTables = .ok ()) {position : Nat} :
    options.TakenAt instructions position key ↔
      key ∈ Layout.ranked (Layout.mentions instructions) ∧ key ≠ feePayer ∧
        (Layout.slot? instructions options.addressTables key).map Layout.Slot.table =
          some position := by
  have places (index : UInt8) :
      options.Eligible instructions key ∧ options.FirstAt key ⟨position, index⟩ ↔
        key ∈ Layout.ranked (Layout.mentions instructions) ∧ key ≠ feePayer ∧
          Layout.slot? instructions options.addressTables key = some ⟨position, index⟩ :=
    (Layout.exists_mem_place_iff payer checked).symm.trans Layout.mem_placed_iff
  rw [TakenAt, ← exists_and_left]
  simp only [places, Option.map_eq_some_iff, exists_and_left]
  refine and_congr_right fun _ => and_congr_right fun _ => ?_
  constructor
  · rintro ⟨index, found⟩
    exact ⟨_, found, rfl⟩
  · rintro ⟨slot, found, rfl⟩
    exact ⟨slot.index, found⟩

end CompileOptions

namespace Layout

open CompileOptions (TakenAt)

variable {feePayer : PublicKey} {instructions : List Instruction} {options : CompileOptions}
  (payer : options.chooseFeePayer instructions = .ok feePayer)

include payer

/-- The own keys besides the payer that have some standing. -/
theorem lists_own (standing : Standing) : standing.Lists (mentions instructions)
    (fun key => key ≠ feePayer ∧ ¬ options.Eligible instructions key)
    ((standing.keys (mentions instructions)).filter fun key =>
      key ≠ feePayer ∧ slot? instructions options.addressTables key = none) := by
  apply Standing.lists_filter
  intro key holds
  have ranked := Standing.mem_ranked_of_of? holds
  rw [decide_eq_true_eq, CompileOptions.eligible_iff_slot? payer, and_iff_right ranked]
  refine and_congr_right fun other => ?_
  rw [and_iff_right other, not_not]

variable (checked : checkTables options.addressTables = .ok ())

include checked

/-- The keys that are taken from one table and may be written, or the ones that are only read. -/
theorem lists_taken (position : Nat) (isWritable : Bool) :
    (Standing.unsigned isWritable).Lists (mentions instructions)
      (options.TakenAt instructions position)
      (((place feePayer instructions options.addressTables).taken position isWritable).map
        Prod.fst) := by
  rw [map_fst_taken_place, Standing.filter_ranked]
  · apply Standing.lists_filter
    intro key holds
    have ranked := Standing.mem_ranked_of_of? holds
    rw [decide_eq_true_eq, CompileOptions.takenAt_iff payer checked, and_iff_right ranked]
    refine and_congr_right fun _ => and_iff_right_of_imp fun found => ?_
    obtain ⟨slot, found, _⟩ := Option.map_eq_some_iff.mp found
    have unsigned := Standing.of?_eq_unsigned ranked (not_signs_of_slot? found)
    rw [holds, Option.some.injEq] at unsigned
    exact (Standing.unsigned_inj unsigned).symm
  · intro key member kept
    obtain ⟨_, rfl, found⟩ := of_decide_eq_true kept
    obtain ⟨slot, found, _⟩ := Option.map_eq_some_iff.mp found
    exact Standing.of?_eq_unsigned member (not_signs_of_slot? found)

/-- What is taken from a table refers to the first place of each key. -/
theorem firstAt_taken (position : Nat) (isWritable : Bool) :
    List.Forall₂ (fun index key => options.FirstAt key ⟨position, index⟩)
      (((place feePayer instructions options.addressTables).taken position isWritable).map Prod.snd)
      (((place feePayer instructions options.addressTables).taken position isWritable).map
        Prod.fst) := by
  rw [List.forall₂_map_left_iff, List.forall₂_map_right_iff, List.forall₂_same]
  intro taken member
  obtain ⟨⟨account, _⟩, present, rfl, _, same⟩ := mem_taken_iff.mp member
  exact ((exists_mem_place_iff payer checked).mp ⟨account, present, same⟩).2

end Layout

/-- The keys that a lookup takes from the table listed at a position are in order. -/
structure TableLookup.Ordered (lookup : TableLookup) (options : CompileOptions)
    (instructions : List Instruction) (position : Nat) : Prop where
  table : ∃ addresses, options.addressTables[position]? = some (lookup.table, addresses)
  writable : ∃ keys,
    List.Forall₂ (fun index key => options.FirstAt key ⟨position, index⟩) lookup.writable keys ∧
      Standing.writable.Lists (Layout.mentions instructions)
        (options.TakenAt instructions position) keys
  readonly : ∃ keys,
    List.Forall₂ (fun index key => options.FirstAt key ⟨position, index⟩) lookup.readonly keys ∧
      Standing.readonly.Lists (Layout.mentions instructions)
        (options.TakenAt instructions position) keys

namespace Message

variable {instructions : List Instruction} {blockhash : Hash} {options : CompileOptions}
  {message : Message}

/-- The keys of a message are in order. -/
structure Ordered (message : Message) (options : CompileOptions) (feePayer : PublicKey)
    (instructions : List Instruction) : Prop where
  /-- The payer, then a block for each standing, without the keys that come from tables. -/
  own : ∃ block : Standing → List PublicKey,
    message.keys = feePayer :: (block .writableSigner ++ block .readonlySigner ++
      block .writable ++ block .readonly) ∧
    ∀ standing : Standing, standing.Lists (Layout.mentions instructions)
      (fun key => key ≠ feePayer ∧ ¬ options.Eligible instructions key) (block standing)
  taken : ∃ positions : List Nat, positions.Pairwise (· < ·) ∧
    List.Forall₂ (fun position lookup => lookup.Ordered options instructions position) positions
      message.lookups

/-- **Compiling puts keys in order.** -/
theorem ordered_of_compile (done : compile instructions blockhash options = .ok message) :
    ∃ feePayer, options.chooseFeePayer instructions = .ok feePayer ∧
      message.Ordered options feePayer instructions := by
  obtain ⟨feePayer, payer, checked, _, follows⟩ := exists_follows_place done
  refine ⟨feePayer, payer, ⟨⟨_, ?own, Layout.lists_own payer⟩,
    ⟨(Layout.place feePayer instructions options.addressTables).positions,
      Layout.pairwise_positions, ?taken⟩⟩⟩
  case own =>
    rw [follows.keys, Layout.map_key_statics, Standing.ranked_eq_keys, List.filter_append,
      List.filter_append, List.filter_append]
  case taken =>
    refine follows.forall₂_lookups.imp ?_
    rintro position lookup ⟨table, writable, readonly⟩
    exact {
      table := table
      writable := ⟨_, writable ▸ Layout.firstAt_taken payer checked position true,
        Layout.lists_taken payer checked position true⟩
      readonly := ⟨_, readonly ▸ Layout.firstAt_taken payer checked position false,
        Layout.lists_taken payer checked position false⟩ }

/-- Two instructions that mention the same accounts with different privileges. -/
def crossing : List Instruction :=
  [⟨uniformKey 3, [.readonly (uniformKey 2) true, .readonly (uniformKey 5) false,
      .writable (uniformKey 1) true, .readonly (uniformKey 4) true], .ok []⟩,
    ⟨uniformKey 6, [.writable (uniformKey 7) false, .writable (uniformKey 5) false,
      .writable (uniformKey 4) false, .readonly (uniformKey 8) false,
      .readonly (uniformKey 3) false], .ok []⟩]

/-- A payer that no instruction mentions, and a table. -/
def crossingOptions : CompileOptions :=
  ⟨some (uniformKey 9), [(uniformKey 10, [uniformKey 8, uniformKey 5])], none⟩

/-- The message of the crossing. -/
def crossingMessage : Message :=
  ofParts .v0 ⟨4, 1, 2⟩ [uniformKey 9, uniformKey 1, uniformKey 2, uniformKey 4, uniformKey 7,
      uniformKey 3, uniformKey 6] .zero
    [⟨5, [2, 7, 1, 3], []⟩, ⟨6, [4, 7, 3, 8, 5], []⟩] [⟨uniformKey 10, [1], [0]⟩]

/-- Instructions that mention keys in another order than their standings. -/
theorem ordered_crossing : compile crossing .zero crossingOptions = .ok crossingMessage ∧
    ∃ feePayer, crossingOptions.chooseFeePayer crossing = .ok feePayer ∧
      crossingMessage.Ordered crossingOptions feePayer crossing :=
  ⟨rfl, ordered_of_compile rfl⟩

end Message

end LedgerClient
