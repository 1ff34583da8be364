import LedgerClient.Proofs.Message.Compile
import LedgerClient.Proofs.Message.Resolution
import LedgerClient.Proofs.Transaction.Slots

/-! # Loaded keys do not sign

Signing and checking look at the bytes, the header and the signers of a message, and at no
more (`LedgerClient.Transaction.outcome_partialSign_eq`). Resolving leaves the bytes and the
header as they are. The signers are the first keys, as many as the header says, so resolving
leaves these as they are exactly if the message has so many keys of its own, or loads none
(`LedgerClient.Message.signsAlike_iff`).
-/

namespace LedgerClient

namespace Transaction

/-- What a signing step comes to: its fault, if it fails, and the signatures that it leaves. -/
def Signing.outcome (step : Signing Unit) (transaction : Transaction) :
    Option LedgerError × List Signature :=
  match step transaction with
  | .ok _ next => (none, next.signatures)
  | .error fault next => (some fault, next.signatures)

section Alike

variable {first second : Message}

private theorem signerKeys_eq_of_alike (alike : first.SameForSigners second)
    (signatures : List Signature) :
    signerKeys ⟨signatures, first⟩ = signerKeys ⟨signatures, second⟩ := by
  simp only [signerKeys, alike.signerKeys, alike.header]

private theorem outcome_partialSign_eq (alike : first.SameForSigners second)
    (provider : KeyProvider) (signatures : List Signature) :
    Signing.outcome (partialSign provider) ⟨signatures, first⟩ =
      Signing.outcome (partialSign provider) ⟨signatures, second⟩ := by
  have same : prepared ⟨signatures, first⟩ = prepared ⟨signatures, second⟩ := by
    simp only [prepared, alike.serialize, signerKeys_eq_of_alike alike]
    rfl
  simp only [Signing.outcome, partialSign_eq, same]
  rcases prepared ⟨signatures, second⟩ with fault | ⟨body, slots⟩
  · rfl
  · rcases filled : fillSlots provider body slots with ⟨signed, _ | fault⟩
    · simp only [filled]
    · simp only [filled]

private theorem outcome_sign_eq (alike : first.SameForSigners second) (provider : KeyProvider)
    (signatures : List Signature) :
    Signing.outcome (sign provider) ⟨signatures, first⟩ =
      Signing.outcome (sign provider) ⟨signatures, second⟩ := by
  have after := outcome_partialSign_eq alike provider signatures
  simp only [Signing.outcome, sign, alike.signerKeys] at after ⊢
  cases second.signerKeys.find? fun key => (provider key).isNone with
  | none => exact after
  | some missing => rfl

private theorem verify_eq (alike : first.SameForSigners second) (signatures : List Signature) :
    verify ⟨signatures, first⟩ = verify ⟨signatures, second⟩ := by
  simp only [verify, alike.serialize, signerKeys_eq_of_alike alike]

end Alike

/-- Where nothing else is wrong, a transaction is turned away for its header. -/
structure RefusesHeader (transaction : Transaction) : Prop where
  verify : ∃ reason, transaction.verify = .error (.invalidHeader reason)
  partialSign : ∀ provider body, transaction.message.serialize = .ok body →
    ∃ reason, partialSign provider transaction = .error (.invalidHeader reason) transaction
  sign : ∀ provider body, transaction.message.serialize = .ok body →
    (∀ signer ∈ transaction.message.signerKeys, (provider signer).isSome = true) →
    ∃ reason, sign provider transaction = .error (.invalidHeader reason) transaction

private theorem refusesHeader_of_few {transaction : Transaction}
    (few : transaction.message.signerKeys.length ≠ transaction.message.header.required.toNat) :
    transaction.RefusesHeader := by
  obtain ⟨reason, refused⟩ :
      ∃ reason, transaction.signerKeys = .error (.invalidHeader reason) := by
    simp only [signerKeys, few, if_false]
    exact ⟨_, rfl⟩
  have stops (provider : KeyProvider) (body : List UInt8)
      (written : transaction.message.serialize = .ok body) :
      partialSign provider transaction = .error (.invalidHeader reason) transaction := by
    rw [partialSign_eq, prepared, written, refused]
    rfl
  refine ⟨⟨reason, ?_⟩, fun provider body written => ⟨reason, stops provider body written⟩, ?_⟩
  · rw [verify, refused]
    rfl
  · intro provider body written given
    have present : transaction.message.signerKeys.find? (fun key => (provider key).isNone) =
        none := by
      apply List.find?_eq_none.mpr
      intro signer member
      rw [← Option.not_isSome, given signer member]
      decide
    refine ⟨reason, ?_⟩
    rw [sign, present]
    exact stops provider body written

end Transaction

namespace Message

open Transaction

variable {message resolved : Message}

/-- **Resolving goes unnoticed by those who sign.** -/
structure SignsAlike (message resolved : Message) : Prop where
  signerKeys : resolved.signerKeys = message.signerKeys
  sign : ∀ provider signatures, Signing.outcome (sign provider) ⟨signatures, resolved⟩ =
    Signing.outcome (sign provider) ⟨signatures, message⟩
  partialSign : ∀ provider signatures,
    Signing.outcome (partialSign provider) ⟨signatures, resolved⟩ =
      Signing.outcome (partialSign provider) ⟨signatures, message⟩
  verify : ∀ signatures, verify ⟨signatures, resolved⟩ = verify ⟨signatures, message⟩
  /-- No loaded key is a signer. -/
  own : resolved.signerKeys <+: message.keys
  refused : message.keys.length < message.header.required.toNat → ∀ signatures,
    RefusesHeader ⟨signatures, message⟩ ∧ RefusesHeader ⟨signatures, resolved⟩

private theorem Stage.exists_keys (waiting : message.isResolved = false)
    (stage : Stage message resolved) (done : resolved.isResolved = true) :
    ∃ loaded, loaded.length = message.lookupCount ∧ resolved.keys = message.keys ++ loaded := by
  obtain ⟨loaded, loads, keys⟩ := stage.keys_of_resolved waiting done
  rw [stage.eq_initial] at loads
  refine ⟨_, ?_, keys.trans (List.append_assoc ..)⟩
  rw [List.length_append]
  exact (length_of_loaded loads).2

/-- The signers are the same if there are enough keys or nothing is loaded. -/
theorem signerKeys_eq_iff {loaded : List PublicKey} (keys : resolved.keys = message.keys ++ loaded)
    (header : resolved.header = message.header) :
    resolved.signerKeys = message.signerKeys ↔
      message.header.required.toNat ≤ message.keys.length ∨ loaded.length = 0 := by
  rw [signerKeys, signerKeys, header, keys]
  constructor
  · intro same
    have lengths := congrArg List.length same
    simp only [List.length_take, List.length_append] at lengths
    omega
  · rintro (enough | none)
    · exact List.take_append_of_le_length enough
    · rw [List.length_eq_zero_iff.mp none, List.append_nil]

private theorem Stage.signsAlike (waiting : message.isResolved = false)
    (stage : Stage message resolved) (same : resolved.signerKeys = message.signerKeys) :
    message.SignsAlike resolved := by
  have header : resolved.header = message.header := by
    rw [stage.eq_initial]
  have alike : resolved.SameForSigners message := ⟨header, same, stage.serialize_eq waiting⟩
  refine ⟨same, outcome_sign_eq alike, outcome_partialSign_eq alike, verify_eq alike, ?_, ?_⟩
  · rw [same]
    exact List.take_prefix ..
  · intro few signatures
    have short : message.signerKeys.length ≠ message.header.required.toNat := by
      rw [Ne, length_signerKeys_eq_iff]
      exact Nat.not_le.mpr few
    refine ⟨refusesHeader_of_few short, refusesHeader_of_few ?_⟩
    simpa only [same, header] using short

/-- **When loaded keys do not sign.** Resolving a message goes unnoticed by those who sign
exactly if it has as many keys of its own as it has signers, or takes none from tables. -/
theorem signsAlike_iff (waiting : message.isResolved = false)
    (resolves : message.resolveLookups = .ok resolved) :
    message.SignsAlike resolved ↔
      message.header.required.toNat ≤ message.keys.length ∨ message.lookupCount = 0 := by
  obtain ⟨loaded, loads, rfl⟩ := (resolveLookups_eq_ok_iff waiting).mp resolves
  have stage : Stage message (message.extended loaded) := .resolved loads
  obtain ⟨more, counted, keys⟩ := stage.exists_keys waiting rfl
  rw [← counted, ← signerKeys_eq_iff keys rfl]
  exact ⟨SignsAlike.signerKeys, stage.signsAlike waiting⟩

/-- Two signers, of which only the first is a key of the message. The table has another key. -/
def overdrawn : Message :=
  { ofParts .v0 ⟨2, 0, 0⟩ [uniformKey 1] .zero [] [⟨uniformKey 9, [0], []⟩] with
    tables := some (.ofList [(uniformKey 9, [uniformKey 2])]) }

/-- The other key is taken for the second signer. -/
def overdrawnResolved : Message :=
  { overdrawn with keys := [uniformKey 1, uniformKey 2], isResolved := true }

/-- A header that asks for more signers than the message has keys. -/
theorem signsAlike_overdrawn_iff : overdrawn.isResolved = false ∧
    overdrawn.resolveLookups = .ok overdrawnResolved ∧
    (overdrawn.SignsAlike overdrawnResolved ↔
      overdrawn.header.required.toNat ≤ overdrawn.keys.length ∨ overdrawn.lookupCount = 0) := by
  have waiting : overdrawn.isResolved = false := rfl
  have resolves : overdrawn.resolveLookups = .ok overdrawnResolved := rfl
  exact ⟨waiting, resolves, signsAlike_iff waiting resolves⟩

/-- Resolving it makes up for the signers that it lacks. -/
theorem not_signsAlike_overdrawn : overdrawn.resolveLookups = .ok overdrawnResolved ∧
    ¬ overdrawn.SignsAlike overdrawnResolved := by
  refine ⟨rfl, ?_⟩
  intro alike
  have more : [uniformKey 1, uniformKey 2] = [uniformKey 1] := alike.signerKeys
  cases more

end Message

end LedgerClient
