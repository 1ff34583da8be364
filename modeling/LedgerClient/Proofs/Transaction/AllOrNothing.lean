import LedgerClient.Proofs.Sequence
import LedgerClient.Proofs.Transaction.Slots

/-! # Signing that fails

Signing fills one slot after the other, and stops at the first key that does not sign. What it
has filled stays filled, so signing is all or nothing exactly if there is nothing to fill before
such a key: the slots are there, and those of the earlier keys hold their signatures already
(`LedgerClient.Transaction.allOrNothing_iff`).
-/

namespace LedgerClient

/-- Slots hold what the keys of their signers make of a text, as far as keys are given. -/
def KeyProvider.Filled (provider : KeyProvider) (text : List UInt8)
    (slots : List (Signature × PublicKey)) : Prop :=
  ∀ entry ∈ slots, ∀ secret, provider entry.2 = some secret → secret.sign text = .ok entry.1

namespace Transaction

variable {provider : KeyProvider} {text body : List UInt8} {transaction : Transaction}

private theorem fill_eq_iff {entry : Signature × PublicKey} (fine : ¬ provider.Fails entry.2) :
    provider.fill text entry = entry.1 ↔
      ∀ secret, provider entry.2 = some secret → secret.sign text = .ok entry.1 := by
  rw [KeyProvider.fill]
  cases given : provider entry.2 with
  | none =>
      apply iff_of_true rfl
      intro secret impossible
      cases impossible
  | some secret =>
      have pair : secret.IsPair := by
        by_contra crossed
        exact fine ⟨secret, given, crossed⟩
      simp only [Option.some.injEq, forall_eq', SecretKey.sign_eq_ok_iff, pair, true_and]

private theorem map_fill_eq_iff {slots : List Signature} {signers : List PublicKey}
    (even : slots.length = signers.length) (fine : ∀ signer ∈ signers, ¬ provider.Fails signer) :
    (slots.zip signers).map (provider.fill text) = slots ↔
      provider.Filled text (slots.zip signers) := by
  have own : (slots.zip signers).map Prod.fst = slots := List.map_fst_zip (Nat.le_of_eq even)
  have same : (slots.zip signers).map (provider.fill text) = slots ↔
      (slots.zip signers).map (provider.fill text) = (slots.zip signers).map Prod.fst := by
    rw [own]
  rw [same, List.map_inj_left, KeyProvider.Filled]
  exact forall₂_congr fun entry member => fill_eq_iff (fine entry.2 (List.of_mem_zip member).2)

/-- **A transaction that signing leaves as it is**, whenever signing fails. -/
structure AllOrNothing (transaction : Transaction) (provider : KeyProvider) : Prop where
  sign : ∀ fault next, sign provider transaction = .error fault next → next = transaction
  partialSign : ∀ fault next, partialSign provider transaction = .error fault next →
    next = transaction

/-- Signing as everyone fails where signing in part does, or before. -/
theorem allOrNothing_of_partialSign
    (whole : ∀ fault next, partialSign provider transaction = .error fault next →
      next = transaction) : transaction.AllOrNothing provider := by
  refine ⟨?_, whole⟩
  intro fault next failed
  rw [sign] at failed
  split at failed
  case h_1 =>
    cases failed
    rfl
  case h_2 => exact whole fault next failed

/-- The signers up to the first one whose key does not sign, if there is one. -/
theorem exists_first_fails (provider : KeyProvider) (signers : List PublicKey) :
    (∀ signer ∈ signers, ¬ provider.Fails signer) ∨
      ∃ before signer after, signers = before ++ signer :: after ∧
        (∀ earlier ∈ before, ¬ provider.Fails earlier) ∧ provider.Fails signer := by
  classical
  cases found : signers.find? fun signer => provider.Fails signer with
  | none =>
      left
      simpa using found
  | some signer =>
      right
      obtain ⟨fails, before, after, split, fine⟩ := List.find?_eq_some_iff_append.mp found
      exact ⟨before, signer, after, split, by simpa using fine, by simpa using fails⟩

/-- Signing that stops changes nothing if it has filled nothing but what was filled. -/
theorem stopped_eq_iff {before : List PublicKey} {front behind : List Signature} {slot : Signature}
    (listed : transaction.openSlots = front ++ slot :: behind)
    (even : front.length = before.length)
    (fine : ∀ earlier ∈ before, ¬ provider.Fails earlier) :
    { transaction with
      signatures := (front.zip before).map (provider.fill body) ++ slot :: behind } =
        transaction ↔
      transaction.signatures ≠ [] ∧ provider.Filled body (transaction.signatures.zip before) := by
  have fields : { transaction with
      signatures := (front.zip before).map (provider.fill body) ++ slot :: behind } =
        transaction ↔
      (front.zip before).map (provider.fill body) ++ slot :: behind = transaction.signatures := by
    cases transaction
    simp only [Transaction.mk.injEq, and_true]
  rw [fields]
  by_cases none : transaction.signatures = []
  · rw [none]
    exact iff_of_false (List.append_ne_nil_of_right_ne_nil _ (List.cons_ne_nil _ _))
      fun held => held.1 rfl
  · rw [openSlots_of_slots none] at listed
    rw [listed, List.append_cancel_right_eq, Sequence.zip_append_left even,
      map_fill_eq_iff even fine]
    exact (and_iff_right (List.append_ne_nil_of_right_ne_nil _ (List.cons_ne_nil _ _))).symm

/-- **When signing is all or nothing.** It is, exactly if the first signer whose key does not
sign finds slots in place, and before it those that are to be signed are signed already. -/
theorem allOrNothing_iff : transaction.AllOrNothing provider ↔
    ∀ body before signer after, transaction.Ready body →
      transaction.message.signerKeys = before ++ signer :: after →
      (∀ earlier ∈ before, ¬ provider.Fails earlier) → provider.Fails signer →
        transaction.signatures ≠ [] ∧
          provider.Filled body (transaction.signatures.zip before) := by
  have slots {body : List UInt8} {before after : List PublicKey} {signer : PublicKey}
      (ready : transaction.Ready body)
      (split : transaction.message.signerKeys = before ++ signer :: after) :
      ∃ front slot behind, transaction.openSlots = front ++ slot :: behind ∧
        front.length = before.length := by
    have level : transaction.openSlots.length = (before ++ signer :: after).length := by
      rw [length_openSlots ready, ← split, length_signerKeys_eq_iff.mpr ready.signers]
    exact Sequence.exists_split_of_length level
  constructor
  · intro whole body before signer after ready split fine fails
    obtain ⟨front, slot, behind, listed, even⟩ := slots ready split
    obtain ⟨fault, stopped⟩ := partialSign_of_fails ready split listed even fine fails
    exact (stopped_eq_iff listed even fine).mp (whole.partialSign _ _ stopped)
  · intro spared
    apply allOrNothing_of_partialSign
    intro fault next failed
    by_cases ready : ∃ body, transaction.Ready body
    · obtain ⟨body, ready⟩ := ready
      rcases exists_first_fails provider transaction.message.signerKeys with
        fine | ⟨before, signer, after, split, fine, fails⟩
      · rw [partialSign_of_fine ready fine] at failed
        cases failed
      · obtain ⟨front, slot, behind, listed, even⟩ := slots ready split
        obtain ⟨reason, stopped⟩ := partialSign_of_fails ready split listed even fine fails
        rw [stopped] at failed
        cases failed
        exact (stopped_eq_iff listed even fine).mpr (spared _ _ _ _ ready split fine fails)
    · obtain ⟨reason, refused⟩ := partialSign_of_unready (not_exists.mp ready) provider
      rw [refused] at failed
      cases failed
      rfl

/-- A key that is read, but whose public half belongs to another seed. -/
def crossedKey : SecretKey := ⟨.replicate 32 3, SecretKey.twos.publicKey⟩

/-- The key of the second signer does not sign, and the first one has signed when this is
found out. -/
theorem not_allOrNothing_duet : SecretKey.ofList crossedKey.toList = .ok crossedKey ∧
    ¬ (ofMessage duet).AllOrNothing (.ofList [SecretKey.ones, crossedKey]) := by
  refine ⟨SecretKey.ofList_toList SecretKey.isPair_twos.1, ?_⟩
  intro whole
  have fine : ¬ KeyProvider.Fails (.ofList [SecretKey.ones, crossedKey])
      SecretKey.ones.publicKey := by
    rintro ⟨secret, given, crossed⟩
    cases given
    exact crossed SecretKey.isPair_ones
  have fails : KeyProvider.Fails (.ofList [SecretKey.ones, crossedKey])
      SecretKey.twos.publicKey :=
    ⟨crossedKey, rfl, by decide +kernel⟩
  have split : duet.signerKeys = [SecretKey.ones.publicKey] ++ [SecretKey.twos.publicKey] := rfl
  have listed : (ofMessage duet).openSlots = [.zero] ++ [.zero] := rfl
  obtain ⟨fault, stopped⟩ := partialSign_of_fails ready_duet split listed rfl
    (List.forall_mem_singleton.mpr fine) fails
  have same := congrArg signatures (whole.partialSign _ _ stopped)
  cases same

end Transaction

end LedgerClient
