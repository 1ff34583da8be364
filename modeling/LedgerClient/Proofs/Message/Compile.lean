import LedgerClient.Message.Compile
import LedgerClient.Proofs.Message.Lookups

/-! # A message says what its instructions say

Compiling settles a layout and follows it (`LedgerClient.Message.exists_follows`). With
the tables attached and the lookups resolved, each compiled instruction names the
program, the accounts and the data that it was made from, and the place of each key
tells whether it signs and whether it may be written
(`LedgerClient.Message.faithful_of_compile`).
-/

namespace LedgerClient

namespace Instruction

variable {keys : List PublicKey} {instruction : Instruction}

/-- The index of a key leads back to it. -/
theorem getElem?_of_indexOf {key : PublicKey} {index : UInt16}
    (fits : keys.length ≤ Layout.maxAccounts) (found : indexOf keys key = .ok index) :
    keys[index.toNat]? = some key := by
  unfold indexOf at found
  split at found
  case h_1 place atPlace =>
    cases found
    obtain ⟨inside, holds, _⟩ := List.idxOf?_eq_some_iff.mp atPlace
    rw [Layout.maxAccounts] at fits
    rw [UInt16.toNat_ofNat', Nat.mod_eq_of_lt (by omega), List.getElem?_eq_getElem inside, holds]
  case h_2 => cases found

/-- An instruction is compiled to the indices of its keys and its data. -/
theorem compile_eq_ok_iff {compiled : CompiledInstruction} :
    instruction.compile keys = .ok compiled ↔
      List.Forall₂ (fun account index => indexOf keys account.key = .ok index)
        instruction.accounts compiled.accounts ∧
      indexOf keys instruction.program = .ok compiled.program ∧
      instruction.data = .ok compiled.data := by
  simp only [compile, Outcome.bind_eq_ok_iff, Outcome.mapM_eq_ok_iff, Outcome.pure_eq_ok_iff]
  constructor
  · rintro ⟨_, accounts, _, program, _, data, rfl⟩
    exact ⟨accounts, program, data⟩
  · rintro ⟨accounts, program, data⟩
    exact ⟨_, accounts, _, program, _, data, rfl⟩

end Instruction

namespace CompiledInstruction

variable {message : Message} {compiled : CompiledInstruction}

private theorem programKey_eq_ok_iff {key : PublicKey} :
    compiled.programKey message = .ok key ↔ message.account? compiled.program.toNat = some key := by
  unfold programKey
  split
  case h_1 found => rw [found, Except.ok.injEq, Option.some.injEq]
  case h_2 missing =>
    rw [missing]
    exact iff_of_false Outcome.throw_ne_ok (Option.some_ne_none key).symm

private theorem accountAt_of_account? {index : UInt16} {key : PublicKey}
    (found : message.account? index.toNat = some key) :
    accountAt message index =
      .ok ⟨key, message.isSigner index.toNat, message.isWritable index.toNat⟩ := by
  rw [accountAt, found]

end CompiledInstruction

/-- A compiled instruction names in a message what an instruction names. -/
structure Restores (message : Message) (instruction : Instruction)
    (compiled : CompiledInstruction) : Prop where
  program : compiled.programKey message = .ok instruction.program
  accounts : ∃ accounts, compiled.resolveAccounts message = .ok accounts ∧
    accounts.map AccountMeta.key = instruction.accounts.map AccountMeta.key
  data : instruction.data = .ok compiled.data

/-- A compiled instruction restores the one that it was compiled from. -/
theorem restores_of_compile {message : Message} {instruction : Instruction}
    {compiled : CompiledInstruction} (fits : message.keys.length ≤ Layout.maxAccounts)
    (done : instruction.compile message.keys = .ok compiled) :
    Restores message instruction compiled := by
  obtain ⟨accounts, program, data⟩ := Instruction.compile_eq_ok_iff.mp done
  refine ⟨?_, ?_, data⟩
  · apply CompiledInstruction.programKey_eq_ok_iff.mpr
    exact Instruction.getElem?_of_indexOf fits program
  · rw [CompiledInstruction.resolveAccounts]
    simp only [Outcome.mapM_eq_ok_iff]
    generalize instruction.accounts = metas at accounts
    generalize compiled.accounts = indices at accounts
    induction accounts with
    | nil => exact ⟨[], .nil, rfl⟩
    | cons index _ ih =>
        obtain ⟨found, rest, same⟩ := ih
        have atIndex := Instruction.getElem?_of_indexOf fits index
        refine ⟨_ :: found, .cons (CompiledInstruction.accountAt_of_account? atIndex) rest, ?_⟩
        rw [List.map_cons, List.map_cons, same]

namespace Message

variable {instructions : List Instruction} {blockhash : Hash} {options : CompileOptions}
  {feePayer key : PublicKey} {message : Message} {layout : Layout}

/-- What a compiled message is made of, step by step. -/
theorem compile_eq_ok_iff : compile instructions blockhash options = .ok message ↔
    ∃ feePayer layout header compiled version,
      options.chooseFeePayer instructions = .ok feePayer ∧
      Layout.checkTables options.addressTables = .ok () ∧
      layout = Layout.place feePayer instructions options.addressTables ∧
      layout.header = .ok header ∧
      List.Forall₂ (fun instruction result => instruction.compile layout.keys = .ok result)
        instructions compiled ∧
      options.chooseVersion layout.lookups layout.signerCount = .ok version ∧
      ofParts version header (layout.statics.map AccountMeta.key) blockhash compiled
        layout.lookups = message := by
  simp only [compile, Outcome.bind_eq_ok_iff, Outcome.mapM_eq_ok_iff, Outcome.pure_eq_ok_iff]
  constructor
  · rintro ⟨feePayer, payer, _, checked, header, counted, compiled, each, version, chosen, made⟩
    exact ⟨feePayer, _, header, compiled, version, payer, checked, rfl, counted, each, chosen, made⟩
  · rintro ⟨feePayer, _, header, compiled, version, payer, checked, rfl, counted, each, chosen,
      made⟩
    exact ⟨feePayer, payer, (), checked, header, counted, compiled, each, version, chosen, made⟩

/-- A message follows a layout. -/
structure Follows (message : Message) (instructions : List Instruction) (layout : Layout) :
    Prop where
  counted : layout.Counted message.header
  fits : layout.keys.length ≤ Layout.maxAccounts
  keys : message.keys = layout.statics.map AccountMeta.key
  compiled : List.Forall₂ (fun instruction result => instruction.compile layout.keys = .ok result)
    instructions message.instructions
  lookups : message.lookups = layout.lookups
  unresolved : message.isResolved = false

/-- **Compiling follows the layout** that places the accounts of the instructions. -/
theorem exists_follows_place (done : compile instructions blockhash options = .ok message) :
    ∃ feePayer, options.chooseFeePayer instructions = .ok feePayer ∧
      Layout.checkTables options.addressTables = .ok () ∧ message.tables = none ∧
      message.Follows instructions (.place feePayer instructions options.addressTables) := by
  obtain ⟨feePayer, _, header, compiled, version, payer, checked, rfl, made, each, _, rfl⟩ :=
    compile_eq_ok_iff.mp done
  obtain ⟨counted, fits⟩ := Layout.header_eq_ok_iff.mp made
  exact ⟨feePayer, payer, checked, rfl, counted, fits, rfl, each, rfl, rfl⟩

/-- **A compiled message follows a layout** of its instructions' accounts. -/
theorem exists_follows (done : compile instructions blockhash options = .ok message) :
    ∃ feePayer layout, options.chooseFeePayer instructions = .ok feePayer ∧
      message.tables = none ∧ layout.tables = options.addressTables ∧
      layout.Places feePayer instructions ∧ message.Follows instructions layout := by
  obtain ⟨feePayer, payer, checked, unset, follows⟩ := exists_follows_place done
  exact ⟨feePayer, _, payer, unset, rfl, Layout.places_place checked, follows⟩

namespace Follows

variable (follows : message.Follows instructions layout)
  (sound : layout.Places feePayer instructions)

include follows

private theorem staticCount_eq : message.staticCount = layout.statics.length := by
  rw [staticCount, follows.unresolved, if_neg Bool.false_ne_true, follows.keys, List.length_map]

/-- All signers are among the message's own keys. -/
theorem required_le : message.header.required.toNat ≤ layout.statics.length := by
  rw [follows.counted.required]
  exact List.countP_le_length

private theorem not_isSigner_of_le {index : Nat} (outside : layout.statics.length ≤ index) :
    message.isSigner index = false := by
  rw [isSigner, decide_eq_false_iff_not, Nat.not_lt]
  exact Nat.le_trans follows.required_le outside

/-- The writable signers are the first of the signers. -/
theorem isWritable_of_lt_required {index : Nat} (signer : index < message.header.required.toNat) :
    message.isWritable index = true ↔
      index < layout.statics.countP fun account => account.isSigner && account.isWritable := by
  have split := layout.writable_add_readonly
  have inside := follows.required_le
  rw [isWritable, follows.staticCount_eq, if_neg (by omega), if_pos signer, decide_eq_true_eq,
    follows.counted.readonlySigned, follows.counted.required]
  omega

/-- The writable keys that do not sign come right after the signers. -/
theorem isWritable_of_required_le {index : Nat}
    (other : message.header.required.toNat ≤ index) (inside : index < layout.statics.length) :
    message.isWritable index = true ↔
      index < layout.statics.countP fun account => account.isSigner || account.isWritable := by
  have split : layout.statics.length =
      layout.statics.countP (fun account => account.isSigner || account.isWritable) +
        layout.statics.countP fun account => !account.isSigner && !account.isWritable := by
    rw [List.length_eq_countP_add_countP fun account => account.isSigner || account.isWritable]
    congr 2
    funext account
    rw [← Bool.not_or, decide_not, Bool.decide_eq_true]
  rw [isWritable, follows.staticCount_eq, if_neg (by omega), if_neg (by omega), decide_eq_true_eq,
    follows.counted.readonlyUnsigned]
  omega

include sound

/-- The header's flag for signing is the one of the layout's account. -/
theorem isSigner_eq {index : Nat} (inside : index < layout.statics.length) :
    message.isSigner index = layout.statics[index].isSigner := by
  rw [Bool.eq_iff_iff, sound.isSigner_iff_lt index inside, isSigner, decide_eq_true_eq,
    follows.counted.required]

/-- An own account that does not sign may be written where the message says so. -/
theorem isWritable_eq {index : Nat} (inside : index < layout.statics.length)
    (other : layout.statics[index].isSigner = false) :
    message.isWritable index = layout.statics[index].isWritable := by
  have behind : message.header.required.toNat ≤ index := by
    rw [← follows.isSigner_eq sound inside, isSigner, decide_eq_false_iff_not] at other
    exact Nat.le_of_not_lt other
  have privileged := sound.privileged_iff_lt index inside
  rw [other, Bool.false_or] at privileged
  rw [Bool.eq_iff_iff, follows.isWritable_of_required_le behind inside, privileged]

end Follows

variable {loaded : List (List PublicKey × List PublicKey)} {tables : AddressTables}

private theorem Follows.keys_extended (follows : message.Follows instructions layout)
    (writable : (loaded.map Prod.fst).flatten = layout.takenKeys true)
    (readonly : (loaded.map Prod.snd).flatten = layout.takenKeys false) :
    (message.extended loaded).keys = layout.keys := by
  rw [extended, follows.keys, writable, readonly]
  rfl

/-- A place tells whether its account signs, and whether it may be written if it does not
sign. -/
def Shows (message : Message) (index : Nat) (account : AccountMeta) : Prop :=
  message.isSigner index = account.isSigner ∧
    (account.isSigner = false → message.isWritable index = account.isWritable)

private theorem Follows.exists_shown_of_taken (follows : message.Follows instructions layout)
    (sound : layout.Places feePayer instructions) {index : Nat} {isWritable : Bool}
    (outside : layout.statics.length ≤ index) (member : key ∈ layout.takenKeys isWritable)
    (flag : message.isWritable index = isWritable) :
    ∃ placed ∈ layout.placed, placed.account.key = key ∧ message.Shows index placed.account := by
  obtain ⟨placed, present, taken, rfl, same⟩ := sound.mem_takenKeys_iff.mp member
  have other : placed.account.isSigner = false := by
    by_contra signer
    rw [sound.signersOwn placed present (eq_true_of_ne_false signer)] at taken
    cases taken
  refine ⟨placed, present, same, ?_, fun _ => flag⟩
  rw [follows.not_isSigner_of_le outside, other]

/-- After resolution each key shows the account that the layout places there. -/
theorem Follows.exists_shown (follows : message.Follows instructions layout)
    (sound : layout.Places feePayer instructions)
    (loads : message.lookups.mapM (·.load tables) = .ok loaded)
    (writable : (loaded.map Prod.fst).flatten = layout.takenKeys true) {index : Nat}
    (found : layout.keys[index]? = some key) :
    ∃ placed ∈ layout.placed, placed.account.key = key ∧ message.Shows index placed.account := by
  have parts : layout.keys = layout.statics.map AccountMeta.key ++
      (layout.takenKeys true ++ layout.takenKeys false) := List.append_assoc _ _ _
  rw [parts] at found
  rcases Nat.lt_or_ge index layout.statics.length with inside | outside
  · rw [List.getElem?_append_left (by rwa [List.length_map]), List.getElem?_map,
      List.getElem?_eq_getElem inside, Option.map_some, Option.some.injEq] at found
    have own := Layout.mem_statics_iff.mp (List.getElem_mem inside)
    exact ⟨_, own, found, follows.isSigner_eq sound inside, follows.isWritable_eq sound inside⟩
  · have flag : message.isWritable index =
        decide (index - layout.statics.length < (layout.takenKeys true).length) := by
      rw [isWritable, follows.staticCount_eq, if_pos outside, ← (length_of_loaded loads).1,
        writable]
    rw [List.getElem?_append_right (by rwa [List.length_map]), List.length_map] at found
    rcases Nat.lt_or_ge (index - layout.statics.length) (layout.takenKeys true).length with
      first | second
    · rw [List.getElem?_append_left first] at found
      rw [decide_eq_true first] at flag
      exact follows.exists_shown_of_taken sound outside (List.mem_of_getElem? found) flag
    · rw [List.getElem?_append_right second] at found
      rw [decide_eq_false (Nat.not_lt.mpr second)] at flag
      exact follows.exists_shown_of_taken sound outside (List.mem_of_getElem? found) flag

/-- The place of a key tells whether it signs, and whether it may be written if it does
not sign. -/
theorem Follows.privileges (follows : message.Follows instructions layout)
    (sound : layout.Places feePayer instructions)
    (loads : message.lookups.mapM (·.load tables) = .ok loaded)
    (writable : (loaded.map Prod.fst).flatten = layout.takenKeys true) {index : Nat}
    (found : layout.keys[index]? = some key) :
    (message.isSigner index = true ↔
      key = feePayer ∨ Marked AccountMeta.isSigner instructions key) ∧
    (message.isSigner index = false →
      (message.isWritable index = true ↔ Marked AccountMeta.isWritable instructions key)) := by
  obtain ⟨placed, present, rfl, signing, writing⟩ :=
    follows.exists_shown sound loads writable found
  have member := sound.mem_accounts present
  rw [signing]
  refine ⟨Layout.isSigner_iff member, ?_⟩
  intro other
  rw [writing other, Layout.isWritable_iff member]
  apply or_iff_right
  intro payer
  rw [(Layout.isSigner_iff member).mpr (.inl payer)] at other
  cases other

/-- A message with all its keys says what some instructions say, paid by a fee payer. -/
structure Faithful (message : Message) (feePayer : PublicKey) (instructions : List Instruction) :
    Prop where
  /-- Instructions come in order, with their programs, accounts and data. -/
  compiled : List.Forall₂ (Restores message) instructions message.instructions
  /-- No key has two places. -/
  distinct : message.keys.Nodup
  /-- The keys are those of the payer, the accounts and the programs. -/
  members : ∀ key, key ∈ message.keys ↔ key = feePayer ∨ ∃ instruction ∈ instructions,
    key = instruction.program ∨ ∃ account ∈ instruction.accounts, account.key = key
  /-- The places that sign are those of the payer and of what is marked as a signer. -/
  signers : ∀ index, message.isSigner index = true ↔ ∃ key, message.account? index = some key ∧
    (key = feePayer ∨ Marked AccountMeta.isSigner instructions key)
  /-- The other places may be written if some instruction lets them be. -/
  writables : ∀ index key, message.account? index = some key → message.isSigner index = false →
    (message.isWritable index = true ↔ Marked AccountMeta.isWritable instructions key)
  /-- The payer comes first, signs and may be written. -/
  payer : message.account? 0 = some feePayer ∧ message.isSigner 0 = true ∧
    message.isWritable 0 = true

/-- A message that follows a layout says what its instructions say once it is resolved. -/
theorem Follows.faithful_extended (follows : message.Follows instructions layout)
    (sound : layout.Places feePayer instructions)
    (loads : message.lookups.mapM (·.load tables) = .ok loaded)
    (writable : (loaded.map Prod.fst).flatten = layout.takenKeys true)
    (readonly : (loaded.map Prod.snd).flatten = layout.takenKeys false) :
    (message.extended loaded).Faithful feePayer instructions := by
  have keys := follows.keys_extended writable readonly
  have keyAt {index : Nat} {key : PublicKey}
      (found : (message.extended loaded).account? index = some key) :
      layout.keys[index]? = some key := by
    rwa [account?, keys] at found
  have privileges {index : Nat} {key : PublicKey}
      (found : (message.extended loaded).account? index = some key) :=
    follows.privileges sound loads writable (keyAt found)
  have sameWritable := isWritable_extended follows.unresolved loads
  obtain ⟨rest, statics⟩ := sound.exists_statics
  have first : 0 < layout.statics.length := by
    rw [statics]
    exact Nat.succ_pos _
  have payerSigns : message.isSigner 0 = true := by
    rw [follows.isSigner_eq sound first]
    simp only [statics, List.getElem_cons_zero, AccountMeta.writable]
  refine { compiled := ?compiled, distinct := ?distinct, members := ?members, signers := ?signers,
           writables := ?writables, payer := ⟨?first, payerSigns, ?written⟩ }
  case compiled =>
    refine follows.compiled.imp ?_
    intro instruction compiled done
    rw [← keys] at done
    exact restores_of_compile (keys ▸ follows.fits) done
  case distinct =>
    rw [keys]
    exact sound.nodup_keys
  case members =>
    intro key
    rw [keys, sound.perm_keys.mem_iff, sound.map_key]
    exact Layout.mem_accounts_iff
  case signers =>
    intro index
    constructor
    · intro signer
      have inside : index < message.header.required.toNat := of_decide_eq_true signer
      have fits : index < (message.extended loaded).keys.length := by
        have own := follows.required_le
        rw [keys, Layout.keys, List.length_append, List.length_append, List.length_map]
        omega
      have found := List.getElem?_eq_getElem fits
      exact ⟨_, found, (privileges found).1.mp signer⟩
    · rintro ⟨key, found, marked⟩
      exact (privileges found).1.mpr marked
  case writables =>
    intro index key found
    rw [sameWritable]
    exact (privileges found).2
  case first =>
    rw [account?, keys, Layout.keys, statics]
    rfl
  case written =>
    rw [sameWritable, follows.isWritable_of_lt_required (of_decide_eq_true payerSigns),
      List.countP_pos_iff, statics]
    exact ⟨_, List.mem_cons_self, rfl⟩

/-- A message says what its instructions say with any tables that hold what it takes from
them. -/
theorem Follows.exists_faithful (follows : message.Follows instructions layout)
    (sound : layout.Places feePayer instructions) (unset : message.tables = none)
    (held : layout.HeldIn tables) :
    ∃ attached resolved, message.setAddressTables tables = .ok attached ∧
      attached.resolveLookups = .ok resolved ∧ resolved.Faithful feePayer instructions := by
  obtain ⟨loaded, loads, writable, readonly⟩ := held.exists_loaded
  rw [← follows.lookups] at loads
  have attachedFollows : Follows { message with tables := some tables } instructions layout :=
    { follows with }
  refine ⟨{ message with tables := some tables }, _, ?_,
    resolveLookups_of_loaded follows.unresolved rfl loads,
    attachedFollows.faithful_extended sound loads writable readonly⟩
  rw [setAddressTables, unset]

/-- **Compiling keeps the instructions.** With every table listed once, the lookups of a
compiled message resolve, and the message then says what its instructions say. -/
theorem faithful_of_compile (distinct : (options.addressTables.map Prod.fst).Nodup)
    (done : compile instructions blockhash options = .ok message) :
    ∃ feePayer attached resolved, options.chooseFeePayer instructions = .ok feePayer ∧
      message.setAddressTables options.tables = .ok attached ∧
      attached.resolveLookups = .ok resolved ∧ resolved.Faithful feePayer instructions := by
  obtain ⟨feePayer, layout, payer, unset, listed, sound, follows⟩ := exists_follows done
  have holds : ∀ entry ∈ layout.tables, options.tables.find? entry.1 = some entry.2 := by
    rw [listed]
    intro entry member
    exact AddressTables.find?_ofList_of_mem distinct member
  obtain ⟨loaded, loads, writable, readonly⟩ := sound.exists_loaded holds
  rw [← follows.lookups] at loads
  have attachedFollows :
      Follows { message with tables := some options.tables } instructions layout :=
    { follows with }
  refine ⟨feePayer, { message with tables := some options.tables }, _, payer, ?_,
    resolveLookups_of_loaded follows.unresolved rfl loads,
    attachedFollows.faithful_extended sound loads writable readonly⟩
  rw [setAddressTables, unset]

/-- A key with the same byte everywhere. -/
def uniformKey (byte : UInt8) : PublicKey := ⟨.replicate 32 byte⟩

/-- A payer hands a program an account that a table lists. -/
def handover : List Instruction :=
  [⟨uniformKey 3, [.writable (uniformKey 1) true, .writable (uniformKey 2) false], .ok [7]⟩]

/-- The table of the handover. -/
def handoverOptions : CompileOptions := ⟨none, [(uniformKey 4, [uniformKey 5, uniformKey 2])], none⟩

/-- The message of the handover. -/
def handoverMessage : Message :=
  ofParts .v0 ⟨1, 0, 1⟩ [uniformKey 1, uniformKey 3] .zero [⟨1, [0, 2], [7]⟩]
    [⟨uniformKey 4, [1], []⟩]

/-- A message that uses a table, resolved with it. -/
theorem faithful_handover : compile handover .zero handoverOptions = .ok handoverMessage ∧
    ∃ feePayer attached resolved, handoverOptions.chooseFeePayer handover = .ok feePayer ∧
      handoverMessage.setAddressTables handoverOptions.tables = .ok attached ∧
      attached.resolveLookups = .ok resolved ∧ resolved.Faithful feePayer handover :=
  ⟨rfl, faithful_of_compile (by decide) rfl⟩

end Message

end LedgerClient
