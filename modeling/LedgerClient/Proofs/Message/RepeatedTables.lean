import LedgerClient.Proofs.Message.Needed

/-! # Tables that are listed twice

Compiling takes a key from the first list of addresses that has it. A message only names the
address of the table, and under an address the addresses listed last are attached. A message
keeps to its instructions exactly if both have the key at the same index
(`LedgerClient.Message.agrees_iff`).
-/

namespace LedgerClient

/-- The addresses listed last for a table have a key where the first ones that have it do. -/
def CompileOptions.Keeps (options : CompileOptions) (key : PublicKey) : Prop :=
  ∀ before entry after, options.addressTables = before ++ entry :: after →
    (∀ earlier ∈ before, key ∉ earlier.2) → key ∈ entry.2 →
      ∃ addresses, options.addressTables.reverse.lookup entry.1 = some addresses ∧
        addresses[entry.2.idxOf key]? = some key

namespace Layout

variable {layout : Layout} {feePayer key found : PublicKey} {instructions : List Instruction}
  {options : CompileOptions} {slot : Slot} {contents : AddressTables}

private theorem holds_iff_keeps (checked : checkTables options.addressTables = .ok ())
    (tables : layout.tables = options.addressTables)
    (taken : slotFrom 0 key options.addressTables = some slot) :
    layout.Holds options.tables slot key ↔ options.Keeps key := by
  have attached (table : PublicKey) :
      options.tables.find? table = options.addressTables.reverse.lookup table :=
    AddressTables.find?_ofList _
  have atSlot {before after : List (PublicKey × List PublicKey)}
      {entry : PublicKey × List PublicKey}
      (split : options.addressTables = before ++ entry :: after)
      (unlisted : ∀ earlier ∈ before, key ∉ earlier.2) (listed : key ∈ entry.2) :
      layout.tables[slot.table]? = some entry ∧ slot.index.toNat = entry.2.idxOf key := by
    have place := (slotFrom_eq_some_iff 0).mpr ⟨before, entry, after, split, unlisted, listed, rfl⟩
    have short := checkTables_eq_ok_iff.mp checked entry
      (split ▸ List.mem_append_right _ List.mem_cons_self)
    have inside := List.idxOf_lt_length_of_mem listed
    rw [taken, Option.some.injEq] at place
    rw [maxTableLength] at short
    subst place
    constructor
    · rw [tables, split, Nat.zero_add, List.getElem?_append_right (Nat.le_refl _), Nat.sub_self,
        List.getElem?_cons_zero]
    · rw [UInt8.toNat_ofNat', Nat.mod_eq_of_lt (by omega)]
  constructor
  · rintro ⟨entry, addresses, atTable, found, holds⟩ before other after split unlisted listed
    obtain ⟨atOther, index⟩ := atSlot split unlisted listed
    rw [atOther] at atTable
    cases atTable
    rw [attached] at found
    rw [index] at holds
    exact ⟨addresses, found, holds⟩
  · intro keeps
    obtain ⟨before, entry, after, split, unlisted, listed, _⟩ := (slotFrom_eq_some_iff 0).mp taken
    obtain ⟨atEntry, index⟩ := atSlot split unlisted listed
    obtain ⟨addresses, found, holds⟩ := keeps before entry after split unlisted listed
    rw [← index] at holds
    rw [← attached] at found
    exact ⟨entry, addresses, atEntry, found, holds⟩

/-- The tables hold what is taken exactly if each eligible key is kept. -/
theorem heldIn_iff_keeps (payer : options.chooseFeePayer instructions = .ok feePayer)
    (checked : checkTables options.addressTables = .ok ()) :
    (place feePayer instructions options.addressTables).HeldIn options.tables ↔
      ∀ key, options.Eligible instructions key → options.Keeps key := by
  simp only [CompileOptions.eligible_iff payer]
  constructor
  · rintro held _ ⟨account, slot, member, rfl⟩
    have taken := (mem_place_iff.mp member).2.2.2
    exact (holds_iff_keeps checked rfl taken).mp (held _ member slot rfl)
  · rintro keeps ⟨account, _⟩ member slot rfl
    have taken := (mem_place_iff.mp member).2.2.2
    exact (holds_iff_keeps checked rfl taken).mpr (keeps _ ⟨account, slot, member, rfl⟩)

/-- A key that is taken from a table is that of an account. -/
theorem exists_named_of_mem_place {account : AccountMeta}
    (member : ⟨account, some slot⟩ ∈ (place feePayer instructions options.addressTables).placed) :
    ∃ instruction ∈ instructions, ∃ other ∈ instruction.accounts, other.key = account.key := by
  obtain ⟨listed, other, unused, _⟩ := mem_place_iff.mp member
  rcases mem_accounts_iff.mp (List.mem_map_of_mem listed) with payer | ⟨instruction, present, named⟩
  · rw [(isSigner_iff listed).mpr (.inl payer)] at other
    cases other
  · refine ⟨instruction, present, named.resolve_left ?_⟩
    intro invoked
    exact unused (List.mem_map.mpr ⟨instruction, present, invoked.symm⟩)

/-- What stands in the place of a key once lookups have been loaded. -/
def StandsFor (layout : Layout) (contents : AddressTables) (key found : PublicKey) : Prop :=
  (∃ account ∈ layout.statics, account.key = key) ∧ found = key ∨
    layout.Fetched contents key found

/-- A key that comes from a table stands in its own place only if the tables hold it there. -/
theorem Places.holds_of_standsFor (sound : layout.Places feePayer instructions) {placed : Placed}
    (member : placed ∈ layout.placed) (atSlot : placed.slot = some slot)
    (shown : layout.StandsFor contents placed.account.key placed.account.key) :
    layout.Holds contents slot placed.account.key := by
  -- No key is placed twice, so the key is not among the message's own.
  rcases shown with ⟨⟨account, own, same⟩, _⟩ | ⟨other, present, place, atPlace, same, holds⟩
  · have equal := sound.eq_of_key (mem_statics_iff.mp own) member same
    subst equal
    cases atSlot
  · have equal := sound.eq_of_key present member same
    subst equal
    rw [atSlot, Option.some.injEq] at atPlace
    exact atPlace ▸ holds

end Layout

namespace CompiledInstruction

variable {message : Message} {compiled : CompiledInstruction}

private theorem account?_of_accountAt {index : UInt16} {account : AccountMeta}
    (found : accountAt message index = .ok account) :
    message.account? index.toNat = some account.key := by
  unfold accountAt at found
  split at found
  case h_1 atIndex =>
    cases found
    exact atIndex
  case h_2 => cases found

/-- An account that resolves to the key that it was made from has one index for both. -/
theorem exists_index_of_mem {keys : List PublicKey} {instruction : Instruction}
    {account : AccountMeta} {accounts : List AccountMeta}
    (fits : keys.length ≤ Layout.maxAccounts) (done : instruction.compile keys = .ok compiled)
    (resolves : compiled.resolveAccounts message = .ok accounts)
    (same : accounts.map AccountMeta.key = instruction.accounts.map AccountMeta.key)
    (member : account ∈ instruction.accounts) : ∃ index : Nat,
      keys[index]? = some account.key ∧ message.keys[index]? = some account.key := by
  obtain ⟨indexed, _, _⟩ := Instruction.compile_eq_ok_iff.mp done
  rw [resolveAccounts, Outcome.mapM_eq_ok_iff] at resolves
  obtain ⟨place, inside, rfl⟩ := List.getElem_of_mem member
  have listed : place < compiled.accounts.length := indexed.length_eq ▸ inside
  have shown : place < accounts.length := resolves.length_eq ▸ listed
  have keyAt : (accounts[place]).key = (instruction.accounts[place]).key := by
    have atPlace := congrArg (fun keys => keys[place]?) same
    simpa [List.getElem?_eq_getElem inside, List.getElem?_eq_getElem shown] using atPlace
  refine ⟨(compiled.accounts[place]).toNat, ?_, ?_⟩
  · exact Instruction.getElem?_of_indexOf fits (indexed.get inside listed)
  · rw [← keyAt]
    exact account?_of_accountAt (resolves.get listed shown)

end CompiledInstruction

namespace Message

variable {instructions : List Instruction} {blockhash : Hash} {options : CompileOptions}
  {message : Message} {layout : Layout} {contents : AddressTables}
  {loaded : List (List PublicKey × List PublicKey)}

private theorem Follows.standsFor_keys (follows : message.Follows instructions layout)
    (loads : message.lookups.mapM (·.load contents) = .ok loaded) :
    List.Forall₂ (layout.StandsFor contents) layout.keys (message.extended loaded).keys := by
  rw [follows.lookups] at loads
  rw [extended, follows.keys]
  obtain ⟨writable, readonly⟩ := Layout.fetched_of_loads loads
  have own : List.Forall₂ (layout.StandsFor contents) (layout.statics.map AccountMeta.key)
      (layout.statics.map AccountMeta.key) := by
    rw [List.forall₂_same]
    intro key member
    exact .inl ⟨List.mem_map.mp member, rfl⟩
  exact List.rel_append (List.rel_append own (writable.imp fun _ _ => .inr))
    (readonly.imp fun _ _ => .inr)

/-- With tables attached, lookups resolve, and every account index leads to the key that an
instruction names there. -/
def Agrees (message : Message) (contents : AddressTables) (instructions : List Instruction) :
    Prop :=
  ∃ attached resolved, message.setAddressTables contents = .ok attached ∧
    attached.resolveLookups = .ok resolved ∧
    List.Forall₂ (fun instruction compiled => ∃ accounts,
      compiled.resolveAccounts resolved = .ok accounts ∧
        accounts.map AccountMeta.key = instruction.accounts.map AccountMeta.key)
      instructions resolved.instructions

/-- A key that instructions name stands in its own place, where a message agrees with them. -/
theorem Follows.standsFor_of_agrees (follows : message.Follows instructions layout)
    (unset : message.tables = none) (agrees : message.Agrees contents instructions)
    {instruction : Instruction} (present : instruction ∈ instructions) {account : AccountMeta}
    (listed : account ∈ instruction.accounts) :
    layout.StandsFor contents account.key account.key := by
  obtain ⟨attached, resolved, set, resolves, each⟩ := agrees
  obtain ⟨loaded, loads, keys, same⟩ :=
    exists_loaded_of_resolves unset follows.unresolved set resolves
  rw [same] at each
  -- The index of the account leads to its key among the keys of the layout, and by the agreement
  -- also among the keys of the resolved message.
  obtain ⟨place, inside, rfl⟩ := List.getElem_of_mem present
  have within : place < message.instructions.length := follows.compiled.length_eq ▸ inside
  obtain ⟨accounts, accountsAt, named⟩ := each.get inside within
  obtain ⟨index, own, shown⟩ := CompiledInstruction.exists_index_of_mem follows.fits
    (follows.compiled.get inside within) accountsAt named listed
  rw [keys] at shown
  obtain ⟨atOwn, own⟩ := List.getElem?_eq_some_iff.mp own
  obtain ⟨atShown, shown⟩ := List.getElem?_eq_some_iff.mp shown
  have both := (follows.standsFor_keys loads).get atOwn atShown
  rwa [List.get_eq_getElem, List.get_eq_getElem, own, shown] at both

/-- **When tables agree.** A message leads to the accounts of its instructions exactly if the
addresses listed last for a table have each key taken from it where the message says. -/
theorem agrees_iff (done : compile instructions blockhash options = .ok message) :
    message.Agrees options.tables instructions ↔
      ∀ key, options.Eligible instructions key → options.Keeps key := by
  obtain ⟨feePayer, payer, checked, unset, follows⟩ := exists_follows_place done
  have sound : (Layout.place feePayer instructions options.addressTables).Places feePayer
      instructions := Layout.places_place checked
  rw [← Layout.heldIn_iff_keeps payer checked]
  constructor
  · rintro agrees ⟨account, _⟩ member slot rfl
    obtain ⟨instruction, present, other, listed, same⟩ := Layout.exists_named_of_mem_place member
    have shown := follows.standsFor_of_agrees unset agrees present listed
    rw [same] at shown
    exact sound.holds_of_standsFor member rfl shown
  · intro held
    obtain ⟨attached, resolved, set, resolves, faithful⟩ :=
      follows.exists_faithful sound unset held
    exact ⟨attached, resolved, set, resolves, faithful.compiled.imp fun _ _ => Restores.accounts⟩

/-- The table of the handover, with other addresses listed later. -/
def relistedOptions : CompileOptions :=
  ⟨none, [(uniformKey 4, [uniformKey 2]), (uniformKey 4, [uniformKey 5])], none⟩

/-- The message of the handover with its table listed twice. -/
def relistedMessage : Message :=
  ofParts .v0 ⟨1, 0, 1⟩ [uniformKey 1, uniformKey 3] .zero [⟨1, [0, 2], [7]⟩]
    [⟨uniformKey 4, [0], []⟩]

/-- A table that is listed twice. -/
theorem agrees_relisted_iff : compile handover .zero relistedOptions = .ok relistedMessage ∧
    (relistedMessage.Agrees relistedOptions.tables handover ↔
      ∀ key, relistedOptions.Eligible handover key → relistedOptions.Keeps key) :=
  ⟨rfl, agrees_iff rfl⟩

/-- The handover gives a key that only the first listing of its table has, and its message leads
to the key that the second listing has there. -/
theorem not_agrees_relisted : compile handover .zero relistedOptions = .ok relistedMessage ∧
    ¬ relistedMessage.Agrees relistedOptions.tables handover := by
  refine ⟨rfl, ?_⟩
  rintro ⟨attached, resolved, set, resolves, each⟩
  obtain rfl : { relistedMessage with tables := some relistedOptions.tables } = attached :=
    Except.ok.inj set
  obtain rfl : extended { relistedMessage with tables := some relistedOptions.tables }
      [([uniformKey 5], [])] = resolved := Except.ok.inj resolves
  rcases each with _ | ⟨⟨accounts, found, same⟩, _⟩
  obtain rfl : [⟨uniformKey 1, true, true⟩, ⟨uniformKey 5, false, true⟩] = accounts :=
    Except.ok.inj found
  exact absurd same (by decide)

end Message

end LedgerClient
