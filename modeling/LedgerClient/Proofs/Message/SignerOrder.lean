import LedgerClient.Proofs.Message.Compile

/-! # Signers that may be written

Signers are put in order by how they are mentioned as signers, and the header counts the
ones that are only read by all their mentions. A signer that only another mention lets
be written keeps its place among those that are only read, so the two agree exactly when
such signers come first there (`LedgerClient.Message.signersExact_iff`).
-/

namespace LedgerClient

/-- The signers besides the fee payer that no mention lets sign and be written at once, in
order of their first mention as signers. -/
def readonlySigners (feePayer : PublicKey) (instructions : List Instruction) : List PublicKey :=
  (Layout.mentioned true false (instructions.flatMap Instruction.accounts)).filter fun key =>
    key ≠ feePayer ∧ key ∉ Layout.mentioned true true (instructions.flatMap Instruction.accounts)

namespace Message

/-- A signer may be written exactly if it pays or some instruction lets it be written. -/
def SignersExact (message : Message) (feePayer : PublicKey) (instructions : List Instruction) :
    Prop :=
  ∀ index key, index < message.header.required.toNat → message.account? index = some key →
    (message.isWritable index = true ↔
      key = feePayer ∨ Marked AccountMeta.isWritable instructions key)

end Message

namespace Layout

variable {feePayer : PublicKey} {instructions : List Instruction} {layout : Layout}

/-- Programs are not mentioned as signers. -/
theorem mentioned_mentions (isWritable : Bool) :
    mentioned true isWritable (mentions instructions) =
      mentioned true isWritable (instructions.flatMap Instruction.accounts) := by
  have programs : block true isWritable ((programs instructions).map (.readonly · false)) = [] := by
    apply List.eq_nil_iff_forall_not_mem.mpr
    intro account member
    obtain ⟨listed, signer, _⟩ := mem_block_iff.mp member
    obtain ⟨_, _, rfl⟩ := List.mem_map.mp listed
    cases signer
  have split : block true isWritable (mentions instructions) =
      block true isWritable (instructions.flatMap Instruction.accounts) ++
        block true isWritable ((Layout.programs instructions).map (.readonly · false)) :=
    List.filter_append ..
  rw [mentioned, split, programs, List.append_nil, mentioned]

/-- Signers that may be written come first among the own accounts exactly if they do
among the signers. -/
theorem Places.pairwise_writable_iff (sound : layout.Places feePayer instructions) :
    (layout.statics.Pairwise fun first second =>
      (second.isSigner && second.isWritable) = true →
        (first.isSigner && first.isWritable) = true) ↔
    (layout.statics.filter AccountMeta.isSigner).Pairwise fun first second =>
      second.isWritable = true → first.isWritable = true := by
  have signersFirst := sound.pairwise_signers
  rw [List.pairwise_filter]
  simp only [Bool.and_eq_true]
  constructor
  · intro ordered
    refine ordered.imp ?_
    intro first second both _ signer writable
    exact (both ⟨signer, writable⟩).2
  · intro ordered
    refine ordered.imp₂ ?_ signersFirst
    intro first second among inFront both
    exact ⟨inFront both.1, among (inFront both.1) both.1 both.2⟩

private theorem pairwise_accounts_iff :
    (((accounts feePayer instructions).filter AccountMeta.isSigner).Pairwise
      fun first second => second.isWritable = true → first.isWritable = true) ↔
    (readonlySigners feePayer instructions).Pairwise fun first second =>
      Marked AccountMeta.isWritable instructions second →
        Marked AccountMeta.isWritable instructions first := by
  have late : ((mentioned true false (mentions instructions)).filter fun key =>
        key ∉ mentioned true true (mentions instructions)).filter (· ≠ feePayer) =
      readonlySigners feePayer instructions := by
    rw [mentioned_mentions, mentioned_mentions, readonlySigners, List.filter_filter]
    apply List.filter_congr
    intro key _
    exact (Bool.decide_and _ _).symm
  have writableLacked (program : PublicKey) :
      (AccountMeta.readonly program false).isWritable = false := rfl
  have early : ∀ key ∈ (mentioned true true (mentions instructions)).filter (· ≠ feePayer),
      Marked AccountMeta.isWritable instructions key := by
    intro key member
    exact (gives_mentions_iff writableLacked).mp
      (writes_iff_mentioned.mpr (.inl (List.mem_of_mem_filter member)))
  rw [signers_accounts, List.pairwise_cons, List.pairwise_map, signerKeys, List.filter_append, late]
  simp only [granted, gives_mentions_iff writableLacked]
  rw [List.pairwise_append]
  constructor
  · rintro ⟨_, _, ordered, _⟩
    exact ordered
  · intro ordered
    refine ⟨fun _ _ _ => rfl, ?_, ordered, ?_⟩
    · apply List.pairwise_of_forall_mem_list
      intro first member _ _ _
      exact early first member
    · intro first member _ _ _
      exact early first member

end Layout

namespace Message

variable {instructions : List Instruction} {blockhash : Hash} {options : CompileOptions}
  {feePayer : PublicKey} {message : Message} {layout : Layout}

/-- The flags are exact if the writable signers come before the others. -/
theorem signersExact_iff_pairwise (follows : message.Follows instructions layout)
    (sound : layout.Places feePayer instructions) :
    message.SignersExact feePayer instructions ↔
      layout.statics.Pairwise fun first second =>
        (second.isSigner && second.isWritable) = true →
          (first.isSigner && first.isWritable) = true := by
  have writable {index : Nat} (inside : index < layout.statics.length) :
      layout.statics[index].isWritable = true ↔ layout.statics[index].key = feePayer ∨
        Marked AccountMeta.isWritable instructions layout.statics[index].key := by
    apply Layout.isWritable_iff
    rw [← sound.accounts]
    exact Layout.sublist_statics.subset (List.getElem_mem inside)
  have found {index : Nat} (inside : index < layout.statics.length) :
      message.account? index = some layout.statics[index].key := by
    rw [account?, follows.keys, List.getElem?_map, List.getElem?_eq_getElem inside, Option.map_some]
  rw [Sequence.pairwise_iff_lt_countP]
  constructor
  · intro exactly index inside
    have signs := follows.isSigner_eq sound inside
    rcases Nat.lt_or_ge index message.header.required.toNat with signer | other
    · rw [isSigner, decide_eq_true signer] at signs
      rw [← signs, Bool.true_and, writable inside, ← exactly index _ signer (found inside),
        follows.isWritable_of_lt_required signer]
    · have split := layout.writable_add_readonly
      have required := follows.counted.required
      rw [isSigner, decide_eq_false (Nat.not_lt.mpr other)] at signs
      refine iff_of_false ?_ (by omega)
      rw [← signs, Bool.false_and]
      exact Bool.false_ne_true
  · intro places index key signer atIndex
    have inside := Nat.lt_of_lt_of_le signer follows.required_le
    have signs := follows.isSigner_eq sound inside
    rw [isSigner, decide_eq_true signer] at signs
    rw [found inside, Option.some.injEq] at atIndex
    rw [follows.isWritable_of_lt_required signer, ← places index inside, ← signs, Bool.true_and,
      writable inside, atIndex]

/-- **When signers are exact.** The signers that may be written are the ones that the
instructions let be written exactly if, among the signers that no mention lets sign and
be written at once, those that another mention lets be written come first. -/
theorem signersExact_iff (done : compile instructions blockhash options = .ok message)
    (payer : options.chooseFeePayer instructions = .ok feePayer) :
    message.SignersExact feePayer instructions ↔
      (readonlySigners feePayer instructions).Pairwise fun first second =>
        Marked AccountMeta.isWritable instructions second →
          Marked AccountMeta.isWritable instructions first := by
  obtain ⟨_, layout, choice, _, _, sound, follows⟩ := exists_follows done
  rw [payer] at choice
  cases choice
  rw [signersExact_iff_pairwise follows sound, sound.pairwise_writable_iff, sound.filter_isSigner,
    Layout.pairwise_accounts_iff]

/-- Two read-only signers, of which a later instruction lets the second be written. -/
def upgrade : List Instruction :=
  [⟨.zero, [.writable (uniformKey 1) true, .readonly (uniformKey 2) true,
      .readonly (uniformKey 3) true], .ok []⟩,
    ⟨.zero, [.writable (uniformKey 3) false], .ok []⟩]

/-- The upgrade without tables, paid by its first signer. -/
def upgradeOptions : CompileOptions := ⟨none, [], none⟩

/-- The message of the upgrade: one signer is only read, and it is taken for the last. -/
def upgradeMessage : Message :=
  ofParts .legacy ⟨3, 1, 1⟩ [uniformKey 1, uniformKey 2, uniformKey 3, .zero] .zero
    [⟨3, [0, 1, 2], []⟩, ⟨3, [2], []⟩] []

/-- A signer that a later instruction marks as writable. -/
theorem signersExact_upgrade_iff : compile upgrade .zero upgradeOptions = .ok upgradeMessage ∧
    upgradeOptions.chooseFeePayer upgrade = .ok (uniformKey 1) ∧
    (upgradeMessage.SignersExact (uniformKey 1) upgrade ↔
      (readonlySigners (uniformKey 1) upgrade).Pairwise fun first second =>
        Marked AccountMeta.isWritable upgrade second →
          Marked AccountMeta.isWritable upgrade first) := by
  have done : compile upgrade .zero upgradeOptions = .ok upgradeMessage := rfl
  exact ⟨done, rfl, signersExact_iff done rfl⟩

/-- The second read-only signer of the upgrade may be written by its instructions, and
not by its message. -/
theorem not_signersExact_upgrade : compile upgrade .zero upgradeOptions = .ok upgradeMessage ∧
    upgradeOptions.chooseFeePayer upgrade = .ok (uniformKey 1) ∧
    ¬ upgradeMessage.SignersExact (uniformKey 1) upgrade := by
  refine ⟨rfl, rfl, ?_⟩
  intro same
  have marked : Marked AccountMeta.isWritable upgrade (uniformKey 3) :=
    ⟨_, List.mem_cons_of_mem _ List.mem_cons_self, _, List.mem_cons_self, rfl, rfl⟩
  have readonly : upgradeMessage.isWritable 2 = false := rfl
  have writable := (same 2 (uniformKey 3) (by decide) rfl).mpr (.inr marked)
  rw [readonly] at writable
  cases writable

end Message

end LedgerClient
