import LedgerClient.Message.Layout
import LedgerClient.Proofs.Sequence

/-! # Who signs and who writes

Mentions are put in order of their privileges before those of one key are merged. A
key then has all the privileges that its mentions give it, in the place of its most
privileged mention (`LedgerClient.Layout.merge_byPrivilege`,
`LedgerClient.Layout.ranked_eq`). The signers of a message therefore come first
(`LedgerClient.Layout.pairwise_signers`), and what may be written comes next
(`LedgerClient.Layout.pairwise_privileged`).
-/

namespace LedgerClient

/-- Some account list gives a key a privilege. -/
def Marked (privilege : AccountMeta → Bool) (instructions : List Instruction) (key : PublicKey) :
    Prop :=
  ∃ instruction ∈ instructions, ∃ account ∈ instruction.accounts,
    account.key = key ∧ privilege account = true

namespace Layout

open AccountMeta (isSigner isWritable)

section Mentions

variable {listed entries : List AccountMeta} {key : PublicKey} {privilege : AccountMeta → Bool}

/-- Whether some mention gives a key a privilege. -/
def gives (privilege : AccountMeta → Bool) (listed : List AccountMeta) (key : PublicKey) : Bool :=
  listed.any fun account => account.key == key && privilege account

/-- A key with all the privileges that its mentions give it. -/
def granted (listed : List AccountMeta) (key : PublicKey) : AccountMeta :=
  ⟨key, gives isSigner listed key, gives isWritable listed key⟩

/-- A privilege is given to a key by some mention of it. -/
theorem gives_iff : gives privilege listed key = true ↔
    ∃ account ∈ listed, account.key = key ∧ privilege account = true := by
  simp only [gives, List.any_eq_true, Bool.and_eq_true, beq_iff_eq]

private theorem granted_congr (same : ∀ account, account ∈ entries ↔ account ∈ listed) :
    granted entries = granted listed := by
  have giving (privilege : AccountMeta → Bool) (key : PublicKey) :
      gives privilege entries key = gives privilege listed key := by
    rw [Bool.eq_iff_iff, gives_iff, gives_iff]
    simp only [same]
  funext key
  rw [granted, granted, giving, giving]

/-- A block holds the listed accounts that have its two privileges. -/
theorem mem_block_iff {isSigner isWritable : Bool} {account : AccountMeta} :
    account ∈ block isSigner isWritable listed ↔
      account ∈ listed ∧ account.isSigner = isSigner ∧ account.isWritable = isWritable := by
  simp only [block, List.mem_filter, Bool.and_eq_true, beq_iff_eq]

/-- Sorting accounts by privilege loses none and makes up none. -/
@[simp] theorem mem_byPrivilege {account : AccountMeta} :
    account ∈ byPrivilege listed ↔ account ∈ listed := by
  simp only [byPrivilege, List.mem_append, mem_block_iff]
  cases account.isSigner <;> cases account.isWritable <;> simp

private theorem pairwise_byPrivilege : (byPrivilege listed).Pairwise fun first second =>
    second.isSigner = true → first.isSigner = true := by
  rw [byPrivilege, List.append_assoc]
  apply Sequence.pairwise_append_of_front
  · intro account member
    rcases List.mem_append.mp member with writable | readonly
    · exact (mem_block_iff.mp writable).2.1
    · exact (mem_block_iff.mp readonly).2.1
  · intro account member
    rw [Bool.not_eq_true]
    rcases List.mem_append.mp member with writable | readonly
    · exact (mem_block_iff.mp writable).2.1
    · exact (mem_block_iff.mp readonly).2.1

/-- Merging keeps each key once, with all its privileges, if every mention as a signer
comes before the others. -/
theorem merge_eq (ordered : entries.Pairwise fun first second =>
    second.isSigner = true → first.isSigner = true) :
    merge entries = (entries.map AccountMeta.key).eraseDups.map (granted entries) := by
  rw [← Sequence.map_eraseDupsBy, List.map_map, merge]
  apply List.map_congr_left
  intro account first
  have member := Sequence.mem_of_mem_eraseDupsBy first
  have signing : account.isSigner = gives isSigner entries account.key := by
    rw [Bool.eq_iff_iff, gives_iff]
    constructor
    · intro signer
      exact ⟨account, member, rfl, signer⟩
    · rintro ⟨other, present, same, signer⟩
      exact Sequence.rel_of_mem_eraseDupsBy (fun _ signer => signer) ordered first present same
        signer
  have writing : (account.isWritable || (((entries.filter AccountMeta.isWritable).map
      AccountMeta.key).eraseDups).contains account.key) = gives isWritable entries account.key := by
    rw [Bool.eq_iff_iff, Bool.or_eq_true, List.contains_iff_mem, List.mem_eraseDups, List.mem_map,
      gives_iff]
    simp only [List.mem_filter, and_assoc]
    constructor
    · rintro (writable | ⟨other, present, writable, same⟩)
      · exact ⟨account, member, rfl, writable⟩
      · exact ⟨other, present, same, writable⟩
    · rintro ⟨other, present, same, writable⟩
      exact .inr ⟨other, present, writable, same⟩
  rw [writing, Function.comp_apply, granted, ← signing]

/-- The keys of mentions, the most privileged first. -/
def ranked (listed : List AccountMeta) : List PublicKey :=
  ((byPrivilege listed).map AccountMeta.key).eraseDups

/-- **Merging mentions** in order of their privileges gives each key all of its own. -/
theorem merge_byPrivilege : merge (byPrivilege listed) = (ranked listed).map (granted listed) := by
  rw [merge_eq pairwise_byPrivilege, granted_congr fun _ => mem_byPrivilege, ranked]

private theorem nodup_ranked : (ranked listed).Nodup := Sequence.nodup_eraseDups _

/-- The ranked keys are those that are listed. -/
theorem mem_ranked_iff : key ∈ ranked listed ↔ ∃ account ∈ listed, account.key = key := by
  simp only [ranked, List.mem_eraseDups, List.mem_map, mem_byPrivilege]

/-- The keys that are mentioned with given privileges, in order of the first such
mention. -/
def mentioned (isSigner isWritable : Bool) (listed : List AccountMeta) : List PublicKey :=
  ((block isSigner isWritable listed).map AccountMeta.key).eraseDups

/-- The keys mentioned with two privileges are those listed with them. -/
theorem mem_mentioned_iff {isSigner isWritable : Bool} :
    key ∈ mentioned isSigner isWritable listed ↔ ⟨key, isSigner, isWritable⟩ ∈ listed := by
  simp only [mentioned, List.mem_eraseDups, List.mem_map, mem_block_iff]
  constructor
  · rintro ⟨account, ⟨member, rfl, rfl⟩, rfl⟩
    exact member
  · intro member
    exact ⟨_, ⟨member, rfl, rfl⟩, rfl⟩

/-- A privilege is given by a mention of some kind that has it. -/
theorem gives_iff_mentioned : gives privilege listed key = true ↔
    ∃ isSigner isWritable, privilege ⟨key, isSigner, isWritable⟩ = true ∧
      key ∈ mentioned isSigner isWritable listed := by
  rw [gives_iff]
  simp only [mem_mentioned_iff]
  constructor
  · rintro ⟨⟨_, isSigner, isWritable⟩, member, rfl, given⟩
    exact ⟨isSigner, isWritable, given, member⟩
  · rintro ⟨isSigner, isWritable, given, member⟩
    exact ⟨_, member, rfl, given⟩

/-- A key signs if some signing mention lists it, writable or not. -/
theorem signs_iff_mentioned : gives isSigner listed key = true ↔
    key ∈ mentioned true true listed ∨ key ∈ mentioned true false listed := by
  simp [gives_iff_mentioned, or_comm]

/-- A key is written if some writable mention lists it, signing or not. -/
theorem writes_iff_mentioned : gives isWritable listed key = true ↔
    key ∈ mentioned true true listed ∨ key ∈ mentioned false true listed := by
  simp [gives_iff_mentioned, or_comm]

/-- The keys that sign: those with a mention that signs and writes, then the others. -/
def signerKeys (listed : List AccountMeta) : List PublicKey :=
  mentioned true true listed ++
    (mentioned true false listed).filter fun key => key ∉ mentioned true true listed

/-- The keys that do not sign: those that may be written, then the others. -/
def otherKeys (listed : List AccountMeta) : List PublicKey :=
  (mentioned false true listed).filter (fun key => !gives isSigner listed key) ++
    (mentioned false false listed).filter fun key =>
      !gives isSigner listed key && !gives isWritable listed key

/-- **The order of keys**: a key stands in the block of its most privileged mention, in
order of the first mentions of that kind. -/
theorem ranked_eq : ranked listed = signerKeys listed ++ otherKeys listed := by
  have inBlock (isSigner isWritable : Bool) (key : PublicKey) :
      key ∈ (block isSigner isWritable listed).map AccountMeta.key ↔
        key ∈ mentioned isSigner isWritable listed := List.mem_eraseDups.symm
  rw [ranked, byPrivilege, List.map_append, List.map_append, List.map_append,
    Sequence.eraseDups_append, Sequence.eraseDups_append, Sequence.eraseDups_append]
  simp only [List.mem_append, inBlock]
  rw [List.append_assoc, signerKeys, otherKeys]
  refine congrArg₂ _ rfl (congrArg₂ _ ?_ ?_)
  · apply List.filter_congr
    intro key _
    rw [Bool.eq_iff_iff, Bool.not_eq_true', ← Bool.not_eq_true, signs_iff_mentioned,
      decide_eq_true_eq]
  · apply List.filter_congr
    intro key _
    rw [Bool.eq_iff_iff, Bool.and_eq_true, Bool.not_eq_true', Bool.not_eq_true', ← Bool.not_eq_true,
      ← Bool.not_eq_true, signs_iff_mentioned, writes_iff_mentioned, decide_eq_true_eq]
    tauto

private theorem signs_of_mem_signerKeys (member : key ∈ signerKeys listed) :
    gives isSigner listed key = true := by
  apply signs_iff_mentioned.mpr
  rcases List.mem_append.mp member with writable | readonly
  · exact .inl writable
  · exact .inr (List.mem_of_mem_filter readonly)

private theorem not_signs_of_mem_otherKeys (member : key ∈ otherKeys listed) :
    ¬ gives isSigner listed key = true := by
  rcases List.mem_append.mp member with writable | readonly
  · simpa using List.of_mem_filter writable
  · have flags := List.of_mem_filter readonly
    rw [Bool.and_eq_true] at flags
    simpa using flags.1

private theorem filter_signs_ranked :
    (ranked listed).filter (gives isSigner listed) = signerKeys listed := by
  rw [ranked_eq, List.filter_append,
    List.filter_eq_self.mpr fun _ member => signs_of_mem_signerKeys member,
    List.filter_eq_nil_iff.mpr fun _ member => not_signs_of_mem_otherKeys member, List.append_nil]

/-- Signers come first among the ranked keys. -/
theorem pairwise_ranked_signs : (ranked listed).Pairwise fun first second =>
    gives isSigner listed second = true → gives isSigner listed first = true := by
  rw [ranked_eq]
  exact Sequence.pairwise_append_of_front (fun _ => signs_of_mem_signerKeys)
    fun _ => not_signs_of_mem_otherKeys

/-- Keys without a privilege come last among the ranked keys. -/
theorem pairwise_ranked_privileged : (ranked listed).Pairwise fun first second =>
    (gives isSigner listed second || gives isWritable listed second) = true →
      (gives isSigner listed first || gives isWritable listed first) = true := by
  rw [ranked_eq, otherKeys, ← List.append_assoc]
  apply Sequence.pairwise_append_of_front
  · intro key member
    rw [Bool.or_eq_true]
    rcases List.mem_append.mp member with signer | writable
    · exact .inl (signs_of_mem_signerKeys signer)
    · exact .inr (writes_iff_mentioned.mpr (.inr (List.mem_of_mem_filter writable)))
  · intro key member
    have flags := List.of_mem_filter member
    rw [Bool.and_eq_true, Bool.not_eq_true', Bool.not_eq_true'] at flags
    rw [flags.1, flags.2]
    exact Bool.false_ne_true

end Mentions

section Accounts

variable {feePayer key : PublicKey} {instructions : List Instruction} {account : AccountMeta}

/-- The mentions are the accounts of the instructions and their programs. -/
theorem mem_mentions_iff : account ∈ mentions instructions ↔
    (∃ instruction ∈ instructions, account ∈ instruction.accounts) ∨
      ∃ instruction ∈ instructions, .readonly instruction.program false = account := by
  simp only [mentions, programs, List.mem_append, List.mem_flatMap, List.mem_map,
    List.mem_eraseDups]
  constructor
  · rintro (listed | ⟨_, ⟨instruction, member, rfl⟩, rfl⟩)
    · exact .inl listed
    · exact .inr ⟨instruction, member, rfl⟩
  · rintro (listed | ⟨instruction, member, rfl⟩)
    · exact .inl listed
    · exact .inr ⟨_, ⟨instruction, member, rfl⟩, rfl⟩

/-- A privilege that programs lack is given by an account list. -/
theorem gives_mentions_iff {privilege : AccountMeta → Bool}
    (lacked : ∀ program, privilege (.readonly program false) = false) :
    gives privilege (mentions instructions) key = true ↔ Marked privilege instructions key := by
  rw [gives_iff]
  simp only [mem_mentions_iff]
  constructor
  · rintro ⟨account, ⟨instruction, member, listed⟩ | ⟨instruction, _, rfl⟩, same, given⟩
    · exact ⟨instruction, member, account, listed, same, given⟩
    · rw [lacked] at given
      cases given
  · rintro ⟨instruction, member, account, listed, same, given⟩
    exact ⟨account, .inl ⟨instruction, member, listed⟩, same, given⟩

/-- The accounts besides the fee payer are the ranked keys with their privileges. -/
theorem accounts_eq : accounts feePayer instructions =
    .writable feePayer true ::
      ((ranked (mentions instructions)).filter (· ≠ feePayer)).map
        (granted (mentions instructions)) := by
  rw [accounts, merge_byPrivilege, List.filter_map]
  congr 2
  apply List.filter_congr
  intro key _
  by_cases same : key = feePayer <;> simp [same, granted]

/-- The accounts of a message are the payer and the other ranked keys. -/
theorem map_key_accounts : (accounts feePayer instructions).map AccountMeta.key =
    feePayer :: (ranked (mentions instructions)).filter (· ≠ feePayer) := by
  rw [accounts_eq, List.map_cons, List.map_map]
  congr 1
  exact List.map_id _

/-- No key has two accounts. -/
theorem nodup_accounts : ((accounts feePayer instructions).map AccountMeta.key).Nodup := by
  rw [map_key_accounts, List.nodup_cons]
  refine ⟨?_, nodup_ranked.filter _⟩
  intro again
  have different := List.of_mem_filter again
  exact of_decide_eq_true different rfl

/-- The accounts are the fee payer, the accounts of the instructions and the programs. -/
theorem mem_accounts_iff : key ∈ (accounts feePayer instructions).map AccountMeta.key ↔
    key = feePayer ∨ ∃ instruction ∈ instructions,
      key = instruction.program ∨ ∃ account ∈ instruction.accounts, account.key = key := by
  rw [map_key_accounts, List.mem_cons, List.mem_filter, decide_eq_true_eq, mem_ranked_iff]
  simp only [mem_mentions_iff]
  constructor
  · rintro (payer | ⟨⟨account, mentioned, same⟩, _⟩)
    · exact .inl payer
    · rcases mentioned with ⟨instruction, member, listed⟩ | ⟨instruction, member, rfl⟩
      · exact .inr ⟨instruction, member, .inr ⟨account, listed, same⟩⟩
      · exact .inr ⟨instruction, member, .inl same.symm⟩
  · rintro (payer | ⟨instruction, member, invoked | ⟨account, listed, same⟩⟩)
    · exact .inl payer
    · rw [or_iff_not_imp_left]
      intro other
      exact ⟨⟨_, .inr ⟨instruction, member, rfl⟩, invoked.symm⟩, other⟩
    · rw [or_iff_not_imp_left]
      intro other
      exact ⟨⟨account, .inl ⟨instruction, member, listed⟩, same⟩, other⟩

private theorem eq_granted_of_mem_accounts (member : account ∈ accounts feePayer instructions) :
    account = .writable feePayer true ∨
      account.key ≠ feePayer ∧ account = granted (mentions instructions) account.key := by
  rw [accounts_eq, List.mem_cons, List.mem_map] at member
  rcases member with payer | ⟨key, other, rfl⟩
  · exact .inl payer
  · have different := List.of_mem_filter other
    exact .inr ⟨of_decide_eq_true different, rfl⟩

/-- An account signs if it is the payer's or some instruction marks it so. -/
theorem isSigner_iff (member : account ∈ accounts feePayer instructions) :
    account.isSigner = true ↔
      account.key = feePayer ∨ Marked isSigner instructions account.key := by
  rcases eq_granted_of_mem_accounts member with rfl | ⟨other, same⟩
  · exact iff_of_true rfl (.inl rfl)
  · rw [or_iff_right other, ← gives_mentions_iff fun _ => rfl, same]
    rfl

/-- An account is writable if it is the payer's or some instruction marks it so. -/
theorem isWritable_iff (member : account ∈ accounts feePayer instructions) :
    account.isWritable = true ↔
      account.key = feePayer ∨ Marked isWritable instructions account.key := by
  rcases eq_granted_of_mem_accounts member with rfl | ⟨other, same⟩
  · exact iff_of_true rfl (.inl rfl)
  · rw [or_iff_right other, ← gives_mentions_iff fun _ => rfl, same]
    rfl

/-- **Signers come first.** -/
theorem pairwise_signers : (accounts feePayer instructions).Pairwise fun first second =>
    second.isSigner = true → first.isSigner = true := by
  rw [accounts_eq, List.pairwise_cons, List.pairwise_map]
  exact ⟨fun _ _ _ => rfl, pairwise_ranked_signs.filter _⟩

/-- **What is only read comes last**, the signers apart. -/
theorem pairwise_privileged : (accounts feePayer instructions).Pairwise fun first second =>
    (second.isSigner || second.isWritable) = true →
      (first.isSigner || first.isWritable) = true := by
  rw [accounts_eq, List.pairwise_cons, List.pairwise_map]
  exact ⟨fun _ _ _ => rfl, pairwise_ranked_privileged.filter _⟩

/-- The signers are the fee payer and then the other keys that sign. -/
theorem signers_accounts : (accounts feePayer instructions).filter AccountMeta.isSigner =
    .writable feePayer true ::
      ((signerKeys (mentions instructions)).filter (· ≠ feePayer)).map
        (granted (mentions instructions)) := by
  rw [accounts_eq, List.filter_cons_of_pos rfl, List.filter_map, List.filter_filter,
    ← filter_signs_ranked, List.filter_filter]
  congr 3
  funext key
  exact Bool.and_comm _ _

end Accounts

end Layout

end LedgerClient
