import LedgerClient.Proofs.Message.Sendable
import LedgerClient.Proofs.Sequence
import LedgerClient.Proofs.Transaction.Slots
import LedgerClient.Proofs.Transaction.Wire
import Mathlib.Data.Set.Insert

/-! # Signing in rounds

Signers need not be together. Each signs with the keys at hand and hands the transaction on,
maybe as bytes. A round only fills slots, and fills a slot again with the signature that it
holds (`LedgerClient.KeyProvider.fill_append`). So all that counts after some rounds is which
keys there were (`LedgerClient.Transaction.run_eq`), not who had them and when
(`LedgerClient.Transaction.signedInRounds_run`).
-/

namespace LedgerClient

private theorem Base58Value.verify_eq_ok_iff {signature : Signature} {key : PublicKey}
    {text : List UInt8} :
    signature.verify key text = .ok () ↔ ((Curve.Point.decompress? key.bytes).any fun point =>
      Curve.verifyWith key.bytes point text signature.bytes) = true := by
  rw [verify]
  split
  case h_1 none =>
    rw [none]
    exact iff_of_false Outcome.throw_ne_ok Bool.false_ne_true
  case h_2 point found =>
    rw [found, Option.any_some]
    split
    case isTrue holds => exact iff_of_true rfl holds
    case isFalse fails => exact iff_of_false Outcome.throw_ne_ok fails

/-- **Keys that can be used together** for a text: their halves belong together, no two of them
stand for the same signer, and what they sign is accepted. -/
structure SecretKey.Keyring (ring : Set SecretKey) (text : List UInt8) : Prop where
  pairs : ∀ key ∈ ring, key.IsPair
  distinct : ∀ first ∈ ring, ∀ second ∈ ring,
    first.publicKey = second.publicKey → first = second
  accepts : ∀ key ∈ ring, ∀ signature, key.sign text = .ok signature →
    signature.verify key.publicKey text = .ok ()

namespace KeyProvider

variable {ring : Set SecretKey} {text : List UInt8} {keys first second : List SecretKey}
  {signer : PublicKey} {secret : SecretKey}

private theorem publicKey_of_ofList (found : ofList keys signer = some secret) :
    secret ∈ keys ∧ secret.publicKey = signer := by
  refine ⟨List.mem_of_find?_eq_some found, ?_⟩
  simpa using List.find?_some found

/-- A key that is listed is the one that is found. -/
theorem ofList_eq_some_iff (keyring : SecretKey.Keyring ring text)
    (known : ∀ key ∈ keys, key ∈ ring) :
    ofList keys signer = some secret ↔ secret ∈ keys ∧ secret.publicKey = signer := by
  refine ⟨publicKey_of_ofList, ?_⟩
  rintro ⟨member, rfl⟩
  cases found : ofList keys secret.publicKey with
  | none =>
      have missing := List.find?_eq_none.mp found secret member
      simp at missing
  | some other =>
      obtain ⟨listed, same⟩ := publicKey_of_ofList found
      rw [keyring.distinct other (known other listed) secret (known secret member) same]

private theorem ofList_eq_none_iff :
    ofList keys signer = none ↔ ∀ secret ∈ keys, secret.publicKey ≠ signer := by
  simp [ofList]

/-- Neither order nor repetition matters. -/
theorem ofList_congr (keyring : SecretKey.Keyring ring text) (known : ∀ key ∈ second, key ∈ ring)
    (same : ∀ secret, secret ∈ first ↔ secret ∈ second) : ofList first = ofList second := by
  have knownFirst : ∀ key ∈ first, key ∈ ring := fun key member => known key ((same key).mp member)
  funext signer
  apply Option.ext
  intro secret
  rw [ofList_eq_some_iff keyring knownFirst, ofList_eq_some_iff keyring known, same]

/-- Keys of a keyring always sign. -/
theorem not_fails_ofList (keyring : SecretKey.Keyring ring text)
    (known : ∀ key ∈ keys, key ∈ ring) (signer : PublicKey) : ¬ (ofList keys).Fails signer := by
  rintro ⟨secret, found, crossed⟩
  exact crossed (keyring.pairs secret (known secret (publicKey_of_ofList found).1))

/-- **Filling a slot twice** is filling it with all keys at once. -/
theorem fill_append (keyring : SecretKey.Keyring ring text)
    (known : ∀ key ∈ first ++ second, key ∈ ring) (entry : Signature × PublicKey) :
    (ofList second).fill text ((ofList first).fill text entry, entry.2) =
      (ofList (first ++ second)).fill text entry := by
  obtain ⟨slot, signer⟩ := entry
  have either : ofList (first ++ second) signer = (ofList first signer).or (ofList second signer) :=
    List.find?_append
  simp only [fill, either]
  cases early : ofList first signer with
  | none => rfl
  | some secret =>
      cases late : ofList second signer with
      | none => rfl
      | some other =>
          obtain ⟨listed, own⟩ := publicKey_of_ofList early
          obtain ⟨again, theirs⟩ := publicKey_of_ofList late
          have same : other = secret := keyring.distinct
            other (known other (List.mem_append_right _ again))
            secret (known secret (List.mem_append_left _ listed)) (theirs.trans own.symm)
          rw [same]
          rfl

end KeyProvider

namespace Message

variable {message : Message}

/-- The counts of the header fit the message's own keys. -/
def HeaderFits (message : Message) : Prop :=
  message.header.validate message.staticKeys.length = .ok ()

private theorem sameForSigners_carried (fits : message.HeaderFits) :
    message.carried.SameForSigners message := by
  refine ⟨rfl, ?_, serialize_carried⟩
  have enough := (Header.validate_eq_ok_iff.mp fits).1
  have fewer : message.staticKeys.length ≤ message.staticCount := List.length_take_le ..
  calc message.carried.signerKeys
      = (message.keys.take message.staticCount).take message.header.required.toNat := rfl
    _ = message.keys.take (min message.header.required.toNat message.staticCount) := List.take_take
    _ = message.signerKeys := by rw [Nat.min_eq_left (Nat.le_trans enough fewer)]; rfl

end Message

namespace Transaction

open KeyProvider (ofList)

variable {ring : Set SecretKey} {transaction : Transaction} {body : List UInt8}
  {given all : List SecretKey}

/-- Every signer has a key among those given. -/
def CoveredBy (transaction : Transaction) (keys : List SecretKey) : Prop :=
  ∀ signer ∈ transaction.message.signerKeys, ∃ secret ∈ keys, secret.publicKey = signer

/-- The slots of a transaction once some keys have signed. -/
def signedWith (transaction : Transaction) (body : List UInt8) (keys : List SecretKey) :
    List Signature :=
  (transaction.openSlots.zip transaction.message.signerKeys).map ((ofList keys).fill body)

private theorem signedWith_congr (keyring : SecretKey.Keyring ring body)
    (known : ∀ key ∈ given, key ∈ ring) (same : ∀ secret, secret ∈ all ↔ secret ∈ given) :
    transaction.signedWith body all = transaction.signedWith body given := by
  rw [signedWith, KeyProvider.ofList_congr keyring known same, signedWith]

section Slots

variable (ready : transaction.Ready body)

include ready

/-- There is a slot for each signer. -/
theorem Ready.level : transaction.openSlots.length = transaction.message.signerKeys.length := by
  rw [length_openSlots ready, length_signerKeys_eq_iff.mpr ready.signers]

private theorem Ready.length_signedWith :
    (transaction.signedWith body given).length = transaction.message.header.required.toNat := by
  rw [signedWith, List.length_map, List.length_zip, ready.level, Nat.min_self,
    length_signerKeys_eq_iff.mpr ready.signers]

private theorem Ready.zip_signedWith :
    (transaction.signedWith body given).zip transaction.message.signerKeys =
      (transaction.openSlots.zip transaction.message.signerKeys).map fun entry =>
        ((ofList given).fill body entry, entry.2) :=
  Sequence.zip_map_zip _ ready.level

/-- Without keys nothing is signed. -/
theorem Ready.signedWith_nil : transaction.signedWith body [] = transaction.openSlots :=
  List.map_fst_zip (Nat.le_of_eq ready.level)

private theorem Ready.getElem?_signedWith {place : Nat} {signer : PublicKey}
    (listed : transaction.message.signerKeys[place]? = some signer) :
    ∃ slot, transaction.openSlots[place]? = some slot ∧
      (transaction.signedWith body given)[place]? =
        some ((ofList given).fill body (slot, signer)) := by
  obtain ⟨inside, _⟩ := List.getElem?_eq_some_iff.mp listed
  rw [← ready.level] at inside
  have found := List.getElem?_eq_getElem inside
  refine ⟨_, found, ?_⟩
  have paired : (transaction.openSlots.zip transaction.message.signerKeys)[place]? =
      some (_, signer) := List.getElem?_zip_eq_some.mpr ⟨found, listed⟩
  rw [signedWith, List.getElem?_map, paired, Option.map_some]

/-- The slot of a key that is given has the signature of that key. -/
theorem Ready.getElem?_signedWith_of_mem (keyring : SecretKey.Keyring ring body)
    (known : ∀ key ∈ given, key ∈ ring) {place : Nat} {secret : SecretKey} (member : secret ∈ given)
    (listed : transaction.message.signerKeys[place]? = some secret.publicKey) :
    (transaction.signedWith body given)[place]? = some (secret.signature body) := by
  obtain ⟨slot, _, filled⟩ := ready.getElem?_signedWith listed
  have found : ofList given secret.publicKey = some secret :=
    (KeyProvider.ofList_eq_some_iff keyring known).mpr ⟨member, rfl⟩
  rw [filled]
  simp only [KeyProvider.fill, found]

/-- The slot of a signer whose key is not given stays as it is. -/
theorem Ready.getElem?_signedWith_of_absent {place : Nat} {signer : PublicKey}
    (listed : transaction.message.signerKeys[place]? = some signer)
    (absent : ∀ secret ∈ given, secret.publicKey ≠ signer) :
    (transaction.signedWith body given)[place]? = transaction.openSlots[place]? := by
  obtain ⟨slot, opened, filled⟩ := ready.getElem?_signedWith listed
  have missing : ofList given signer = none := KeyProvider.ofList_eq_none_iff.mpr absent
  rw [filled, opened]
  simp only [KeyProvider.fill, missing]

/-- **Partial signing fills the slots** of the keys that are given. -/
theorem Ready.partialSign_ofList (keyring : SecretKey.Keyring ring body)
    (known : ∀ key ∈ given, key ∈ ring) :
    partialSign (ofList given) transaction =
      .ok () { transaction with signatures := transaction.signedWith body given } :=
  partialSign_of_fine ready fun signer _ => KeyProvider.not_fails_ofList keyring known signer

end Slots

/-- Hand a transaction on as bytes. -/
def handOn : Signing Unit := fun transaction =>
  match transaction.serialize >>= deserialize with
  | .ok received => .ok () received
  | .error fault => .error fault transaction

/-- What arrives is the transaction without what its message does not carry. -/
theorem handOn_eq (ready : transaction.Ready body)
    (fits : transaction.message.HeaderFits) :
    handOn transaction =
      .ok () { transaction with message := transaction.message.carried } := by
  have few : transaction.signatures.length ≤ CompactLength.maxValue := by
    have required := transaction.message.header.required.toNat_lt
    have bound : (256 : Nat) ≤ CompactLength.maxValue := by decide
    rcases ready.sized with none | all
    · rw [none]
      exact Nat.zero_le _
    · omega
  obtain ⟨count, counted⟩ := CompactLength.exists_encode? few
  have front : SpellsSignatures transaction.signatures _ := ⟨count, counted, rfl⟩
  have written : transaction.serialize = .ok _ :=
    serialize_eq_ok_iff.mpr ⟨_, body, front, ready.written, rfl⟩
  have carried : Message.serialize transaction.message.carried = .ok body :=
    Message.serialize_carried.trans ready.written
  have arrives : deserialize _ = .ok { transaction with message := transaction.message.carried } :=
    deserialize_eq_ok_iff.mpr
      ⟨⟨rfl, rfl, fits⟩, serialize_eq_ok_iff.mpr ⟨_, body, front, carried, rfl⟩⟩
  rw [handOn, written]
  change (match deserialize _ with | .ok _ => _ | .error _ => _) = _
  rw [arrives]

/-- What is done with a transaction: it is signed with some keys, or handed on. -/
inductive Round where
  | sign (keys : List SecretKey)
  | hop
deriving DecidableEq

namespace Round

/-- What a round does to a transaction. -/
def perform : Round → Signing Unit
  | .sign keys => partialSign (ofList keys)
  | .hop => handOn

/-- The keys that a round brings. -/
def keys : Round → List SecretKey
  | .sign keys => keys
  | .hop => []

end Round

/-- Some rounds, one after another. -/
def run (rounds : List Round) : Signing Unit := rounds.forM Round.perform

/-- The keys that some rounds bring. -/
def supplied (rounds : List Round) : List SecretKey := rounds.flatMap Round.keys

/-- What rounds make of a transaction. -/
def afterRounds (transaction : Transaction) (body : List UInt8) (rounds : List Round) :
    Transaction where
  signatures := if ∀ round ∈ rounds, round = .hop then transaction.signatures
    else transaction.signedWith body (supplied rounds)
  message := if .hop ∈ rounds then transaction.message.carried else transaction.message

section Run

variable {rounds rest : List Round} {round : Round}

private theorem supplied_of_hops (hops : ∀ round ∈ rounds, round = .hop) :
    supplied rounds = [] := by
  apply List.flatMap_eq_nil_iff.mpr
  intro round member
  rw [hops round member]
  rfl

private theorem afterRounds_sign : transaction.afterRounds body (rounds ++ [.sign given]) =
    { transaction.afterRounds body rounds with
      signatures := transaction.signedWith body (supplied rounds ++ given) } := by
  simp [afterRounds, supplied, Round.keys]

private theorem afterRounds_hop : transaction.afterRounds body (rounds ++ [.hop]) =
    { transaction.afterRounds body rounds with message := transaction.message.carried } := by
  simp [afterRounds, supplied, Round.keys, or_imp]

/-- Rounds leave to the signers what they look at. -/
theorem sameForSigners_afterRounds (fits : Round.hop ∈ rounds → transaction.message.HeaderFits) :
    (transaction.afterRounds body rounds).message.SameForSigners transaction.message := by
  by_cases hop : Round.hop ∈ rounds
  · simp only [afterRounds, hop, if_true]
    exact Message.sameForSigners_carried (fits hop)
  · simp only [afterRounds, hop, if_false]
    exact ⟨rfl, rfl, rfl⟩

private theorem carried_afterRounds :
    (transaction.afterRounds body rounds).message.carried = transaction.message.carried := by
  by_cases hop : Round.hop ∈ rounds
  · simp only [afterRounds, hop, if_true]
    exact Message.carried_eq_self rfl rfl
  · simp only [afterRounds, hop, if_false]

private theorem signatures_of_sign (signs : Round.sign given ∈ rounds) :
    (transaction.afterRounds body rounds).signatures =
      transaction.signedWith body (supplied rounds) := by
  apply if_neg
  intro hops
  cases hops _ signs

section

variable (ready : transaction.Ready body)
  (fits : Round.hop ∈ rounds → transaction.message.HeaderFits)

include ready fits

/-- A transaction stays ready for signing. -/
theorem Ready.afterRounds : (transaction.afterRounds body rounds).Ready body := by
  have alike : (transaction.afterRounds body rounds).message.SameForSigners transaction.message :=
    sameForSigners_afterRounds fits
  refine ⟨alike.serialize.trans ready.written, ?_, ?_⟩
  · rw [← length_signerKeys_eq_iff, alike.signerKeys, alike.header, length_signerKeys_eq_iff]
    exact ready.signers
  · rw [alike.header, Transaction.afterRounds]
    dsimp only
    split
    case isTrue => exact ready.sized
    case isFalse => exact .inr ready.length_signedWith

/-- The slots that the next round finds. -/
theorem Ready.openSlots_afterRounds : (transaction.afterRounds body rounds).openSlots =
    transaction.signedWith body (supplied rounds) := by
  have alike : (transaction.afterRounds body rounds).message.SameForSigners transaction.message :=
    sameForSigners_afterRounds fits
  by_cases hops : ∀ round ∈ rounds, round = .hop
  · have same : (transaction.afterRounds body rounds).signatures = transaction.signatures :=
      if_pos hops
    rw [supplied_of_hops hops, ready.signedWith_nil, openSlots, openSlots, same, alike.header]
  · have same : (transaction.afterRounds body rounds).signatures =
        transaction.signedWith body (supplied rounds) := if_neg hops
    rw [openSlots, same, alike.header]
    split
    case isTrue none =>
      -- No slots although keys have signed: then there are no signers to make slots for.
      have counted : (transaction.signedWith body (supplied rounds)).length = _ :=
        ready.length_signedWith
      rw [none] at counted
      rw [none, ← counted]
      rfl
    case isFalse some => rfl

end

section

variable (keyring : SecretKey.Keyring ring body) (ready : transaction.Ready body)

include keyring ready

/-- **What a round does** to what the rounds before it have made of a transaction. -/
theorem perform_afterRounds (known : ∀ key ∈ supplied (rounds ++ [round]), key ∈ ring)
    (fits : Round.hop ∈ rounds ++ [round] → transaction.message.HeaderFits) :
    round.perform (transaction.afterRounds body rounds) =
      .ok () (transaction.afterRounds body (rounds ++ [round])) := by
  have earlier := fun hop => fits (List.mem_append_left _ hop)
  have alike : (transaction.afterRounds body rounds).message.SameForSigners transaction.message :=
    sameForSigners_afterRounds earlier
  have next := ready.afterRounds earlier
  cases round with
  | sign given =>
      have both : supplied (rounds ++ [.sign given]) = supplied rounds ++ given := by
        simp [supplied, Round.keys]
      rw [both] at known
      have signed : (transaction.afterRounds body rounds).signedWith body given =
          transaction.signedWith body (supplied rounds ++ given) := by
        rw [signedWith, ready.openSlots_afterRounds earlier, alike.signerKeys,
          ready.zip_signedWith, List.map_map, signedWith]
        apply List.map_congr_left
        intro entry _
        exact KeyProvider.fill_append keyring known entry
      rw [Round.perform, afterRounds_sign, ← signed]
      exact next.partialSign_ofList keyring fun key member =>
        known key (List.mem_append_right _ member)
  | hop =>
      have own : (transaction.afterRounds body rounds).message.staticKeys =
          transaction.message.staticKeys := congrArg Message.keys carried_afterRounds
      rw [Round.perform, afterRounds_hop, ← carried_afterRounds]
      apply handOn_eq next
      rw [Message.HeaderFits, alike.header, own]
      exact fits (List.mem_append_right _ List.mem_cons_self)

private theorem run_afterRounds (known : ∀ key ∈ supplied (rounds ++ rest), key ∈ ring)
    (fits : Round.hop ∈ rounds ++ rest → transaction.message.HeaderFits) :
    run rest (transaction.afterRounds body rounds) =
      .ok () (transaction.afterRounds body (rounds ++ rest)) := by
  induction rest generalizing rounds with
  | nil =>
      rw [List.append_nil]
      rfl
  | cons round rest ih =>
      rw [List.append_cons] at known fits ⊢
      have step : round.perform (transaction.afterRounds body rounds) = _ :=
        perform_afterRounds keyring ready
          (fun key member => known key (by
            rw [supplied, List.flatMap_append]
            exact List.mem_append_left _ member))
          (fun hop => fits (List.mem_append_left _ hop))
      change (round.perform >>= fun _ => run rest) _ = _
      rw [← ih known fits]
      simp only [bind, EStateM.bind, step]

/-- **What a run comes to** does not depend on who had which key, nor when. -/
theorem run_eq (known : ∀ key ∈ supplied rounds, key ∈ ring)
    (fits : Round.hop ∈ rounds → transaction.message.HeaderFits) :
    run rounds transaction = .ok () (transaction.afterRounds body rounds) := by
  have start : transaction.afterRounds body [] = transaction := by
    simp [afterRounds]
  have whole : run rounds (transaction.afterRounds body []) =
      .ok () (transaction.afterRounds body ([] ++ rounds)) :=
    run_afterRounds keyring ready known fits
  rwa [start] at whole

private theorem forall₂_signedWith (known : ∀ key ∈ given, key ∈ ring)
    (covered : transaction.CoveredBy given) :
    List.Forall₂ (fun signature key => signature.verify key body = .ok ())
      (transaction.signedWith body given) transaction.message.signerKeys := by
  rw [List.forall₂_iff_zip, ready.length_signedWith, ready.zip_signedWith]
  refine ⟨(length_signerKeys_eq_iff.mpr ready.signers).symm, ?_⟩
  intro signature signer member
  obtain ⟨⟨slot, owner⟩, paired, same⟩ := List.mem_map.mp member
  cases same
  obtain ⟨secret, listed, rfl⟩ := covered owner (List.of_mem_zip paired).2
  have found : ofList given secret.publicKey = some secret :=
    (KeyProvider.ofList_eq_some_iff keyring known).mpr ⟨listed, rfl⟩
  have signs : secret.sign body = .ok (secret.signature body) :=
    SecretKey.sign_of_isPair (keyring.pairs secret (known secret listed))
  simp only [KeyProvider.fill, found]
  exact keyring.accepts secret (known secret listed) _ signs

/-- Signing as everyone is signing in part, where all keys are there. -/
theorem sign_ofList (known : ∀ key ∈ given, key ∈ ring)
    (covered : transaction.CoveredBy given) :
    sign (ofList given) transaction =
      .ok () { transaction with signatures := transaction.signedWith body given } := by
  have present : (transaction.message.signerKeys.find? fun signer =>
      (ofList given signer).isNone) = none := by
    apply List.find?_eq_none.mpr
    intro signer member missing
    obtain ⟨secret, listed, own⟩ := covered signer member
    exact KeyProvider.ofList_eq_none_iff.mp (Option.isNone_iff_eq_none.mp missing) secret listed own
  rw [sign, present]
  exact ready.partialSign_ofList keyring known

end

/-- Where every signer's key was there, the signatures are those of all keys. -/
theorem signatures_of_covered (ready : transaction.Ready body)
    (covered : transaction.CoveredBy (supplied rounds)) :
    (transaction.afterRounds body rounds).signatures =
      transaction.signedWith body (supplied rounds) := by
  by_cases hops : ∀ round ∈ rounds, round = .hop
  -- Nobody has signed, and yet nobody is missing: there are no signers, and so no slots.
  · have nobody : transaction.message.signerKeys = [] := by
      apply List.eq_nil_iff_forall_not_mem.mpr
      intro signer member
      obtain ⟨secret, listed, _⟩ := covered signer member
      rw [supplied_of_hops hops] at listed
      cases listed
    have none : transaction.openSlots = [] := by
      rw [← List.length_eq_zero_iff, ready.level, nobody]
      rfl
    have unsigned : transaction.signatures = [] := by
      by_contra some
      rw [openSlots_of_slots some] at none
      exact some none
    rw [signedWith, nobody, List.zip_nil_right]
    exact (if_pos hops).trans unsigned
  · exact if_neg hops

end Run

/-- **What rounds make of a transaction**, whoever signs in whichever of them. -/
structure SignedInRounds (transaction final : Transaction) (body : List UInt8)
    (rounds : List Round) : Prop where
  /-- Handing on takes away what the message does not carry. -/
  message : final.message =
    if .hop ∈ rounds then transaction.message.carried else transaction.message
  unsigned : (∀ keys, Round.sign keys ∉ rounds) → final.signatures = transaction.signatures
  sized : ∀ keys, Round.sign keys ∈ rounds →
    final.signatures.length = transaction.message.header.required.toNat
  /-- A signer whose key was there has signed. -/
  signed : ∀ secret ∈ supplied rounds, ∀ place : Nat,
    transaction.message.signerKeys[place]? = some secret.publicKey →
      ∃ signature, secret.sign body = .ok signature ∧ final.signatures[place]? = some signature
  /-- The other slots are as they were, or empty if there were none. -/
  kept : ∀ keys, Round.sign keys ∈ rounds → ∀ (place : Nat) signer,
    transaction.message.signerKeys[place]? = some signer →
      (∀ secret ∈ supplied rounds, secret.publicKey ≠ signer) →
        final.signatures[place]? = transaction.openSlots[place]?
  /-- It is as if all keys had been there at once. -/
  atOnce : ∀ keys, Round.sign keys ∈ rounds → ∀ all : List SecretKey,
    (∀ secret, secret ∈ all ↔ secret ∈ supplied rounds) →
      partialSign (ofList all) transaction =
        .ok () { transaction with signatures := final.signatures }
  complete : transaction.CoveredBy (supplied rounds) →
    final.verify = .ok () ∧ ∀ all : List SecretKey,
      (∀ secret, secret ∈ all ↔ secret ∈ supplied rounds) →
        sign (ofList all) transaction =
          .ok () { transaction with signatures := final.signatures }

/-- **Signing in rounds comes to the same** as signing at once with all keys, and is complete
once every signer's key was there. -/
theorem signedInRounds_run (keyring : SecretKey.Keyring ring body)
    (ready : transaction.Ready body) {rounds : List Round}
    (known : ∀ key ∈ supplied rounds, key ∈ ring)
    (fits : Round.hop ∈ rounds → transaction.message.HeaderFits) :
    ∃ final, run rounds transaction = .ok () final ∧
      SignedInRounds transaction final body rounds := by
  have alike : (transaction.afterRounds body rounds).message.SameForSigners transaction.message :=
    sameForSigners_afterRounds fits
  have knownAll {all : List SecretKey}
      (same : ∀ secret, secret ∈ all ↔ secret ∈ supplied rounds) : ∀ key ∈ all, key ∈ ring :=
    fun key member => known key ((same key).mp member)
  refine ⟨_, run_eq keyring ready known fits, ?_⟩
  refine { message := rfl, unsigned := ?unsigned, sized := ?sized, signed := ?signed,
           kept := ?kept, atOnce := ?atOnce, complete := ?complete }
  case unsigned =>
    intro none
    apply if_pos
    intro round member
    cases round with
    | sign keys => exact (none keys member).elim
    | hop => rfl
  case sized =>
    intro keys signs
    rw [signatures_of_sign signs]
    exact ready.length_signedWith
  case signed =>
    intro secret listed place own
    obtain ⟨round, member, among⟩ := List.mem_flatMap.mp listed
    cases round with
    | hop => cases among
    | sign keys =>
        refine ⟨_, SecretKey.sign_of_isPair (keyring.pairs secret (known secret listed)), ?_⟩
        rw [signatures_of_sign member]
        exact ready.getElem?_signedWith_of_mem keyring known listed own
  case kept =>
    intro keys signs place signer own absent
    rw [signatures_of_sign signs]
    exact ready.getElem?_signedWith_of_absent own absent
  case atOnce =>
    intro keys signs all same
    rw [signatures_of_sign signs, ← signedWith_congr keyring known same]
    exact ready.partialSign_ofList keyring (knownAll same)
  case complete =>
    intro covered
    have signatures := signatures_of_covered ready covered
    have next := ready.afterRounds fits
    have signers := signerKeys_eq_ok_iff.mpr ⟨next.signers, rfl⟩
    refine ⟨?_, ?_⟩
    · rw [verify_eq_ok_iff_of_signers signers next.written, signatures, alike.signerKeys]
      exact forall₂_signedWith keyring ready known covered
    · intro all same
      rw [signatures, ← signedWith_congr keyring known same]
      apply sign_ofList keyring ready (knownAll same)
      intro signer member
      obtain ⟨secret, listed, own⟩ := covered signer member
      exact ⟨secret, (same secret).mpr listed, own⟩

/-- The second signer signs and hands the transaction on, and both sign what arrives. -/
def duetRounds : List Round :=
  [.sign [SecretKey.twos], .hop, .sign [SecretKey.ones, SecretKey.twos]]

private theorem keyring_duet :
    SecretKey.Keyring {SecretKey.ones, SecretKey.twos} duetBytes := by
  refine ⟨?_, ?_, ?_⟩
  · intro key member
    rcases member with rfl | rfl
    · exact SecretKey.isPair_ones
    · exact SecretKey.isPair_twos
  · intro first memberFirst second memberSecond same
    rcases memberFirst with rfl | rfl <;> rcases memberSecond with rfl | rfl
    · rfl
    · cases same
    · cases same
    · rfl
  · intro key member signature signs
    obtain ⟨_, rfl⟩ := SecretKey.sign_eq_ok_iff.mp signs
    apply Base58Value.verify_eq_ok_iff.mpr
    rcases member with rfl | rfl
    · decide +kernel
    · decide +kernel

/-- Two keys sign in rounds, with a hop between them. -/
theorem signedInRounds_duet :
    SecretKey.Keyring {SecretKey.ones, SecretKey.twos} duetBytes ∧
      (ofMessage duet).Ready duetBytes ∧
      (∀ key ∈ supplied duetRounds, key ∈ ({SecretKey.ones, SecretKey.twos} : Set SecretKey)) ∧
      duet.HeaderFits ∧
      ∃ final, run duetRounds (ofMessage duet) = .ok () final ∧
        SignedInRounds (ofMessage duet) final duetBytes duetRounds := by
  have known : ∀ key ∈ supplied duetRounds,
      key ∈ ({SecretKey.ones, SecretKey.twos} : Set SecretKey) := by
    simp [supplied, duetRounds, Round.keys]
  have fits : duet.HeaderFits := rfl
  exact ⟨keyring_duet, ready_duet, known, fits,
    signedInRounds_run keyring_duet ready_duet known fun _ => fits⟩

end Transaction

end LedgerClient
