import LedgerClient.Proofs.Outcome
import LedgerClient.Transaction.Basic

/-! # Slots and the keys that fill them

A key signs exactly if its halves belong together (`LedgerClient.SecretKey.sign_eq_ok_iff`).
Signing gets as far as the slots of a transaction that is ready for it, and changes nothing
otherwise (`LedgerClient.Transaction.partialSign_of_unready`). From there it fills every slot
whose key is given (`LedgerClient.Transaction.fillSlots_of_fine`), up to the first key that
does not sign (`LedgerClient.Transaction.fillSlots_append`).
-/

namespace LedgerClient

namespace SecretKey

/-- The halves of a key belong together: the public half is a point, and the one that the seed
gives. -/
def IsPair (key : SecretKey) : Prop :=
  key.publicKey.isOnCurve = true ∧ Curve.publicOfSeed key.seed = key.publicKey.bytes

instance (key : SecretKey) : Decidable key.IsPair := inferInstanceAs (Decidable (_ ∧ _))

/-- The signature that a key pair makes of a text. -/
def signature (key : SecretKey) (text : List UInt8) : Signature :=
  ⟨Curve.signWith key.seed key.publicKey.bytes text⟩

variable {key : SecretKey} {text : List UInt8}

/-- A secret key passes if its public half is on the curve. -/
theorem validate_eq_ok_iff {done : Unit} :
    key.validate = .ok done ↔ key.publicKey.isOnCurve = true := by
  rw [validate]
  split
  case isTrue point => exact iff_of_true rfl point
  case isFalse point => exact iff_of_false Outcome.throw_ne_ok point

/-- **A key signs** exactly if its halves belong together. -/
theorem sign_eq_ok_iff {signature : Signature} :
    key.sign text = .ok signature ↔ key.IsPair ∧ key.signature text = signature := by
  simp only [sign, Outcome.bind_eq_ok_iff, Outcome.refuse_eq_ok_iff, Outcome.pure_eq_ok_iff,
    validate_eq_ok_iff, not_not, IsPair, exists_const, and_assoc]
  rfl

/-- A key pair signs. -/
theorem sign_of_isPair (pair : key.IsPair) : key.sign text = .ok (key.signature text) :=
  sign_eq_ok_iff.mpr ⟨pair, rfl⟩

private theorem exists_fault_of_crossed (crossed : ¬ key.IsPair) (text : List UInt8) :
    ∃ fault, key.sign text = .error fault := by
  cases signs : key.sign text with
  | error fault => exact ⟨fault, rfl⟩
  | ok signature => exact (crossed (sign_eq_ok_iff.mp signs).1).elim

/-- A key comes back from its bytes, whether or not its halves belong together. -/
theorem ofList_toList (point : key.publicKey.isOnCurve = true) :
    ofList key.toList = .ok key := by
  have fits : key.toList.length = 64 := by
    rw [toList, List.length_append, key.seed.length_toList, key.publicKey.length_toList]
    rfl
  have front : key.toList.take 32 = key.seed.toList := List.take_left' key.seed.length_toList
  have back : key.toList.drop 32 = key.publicKey.toList := List.drop_left' key.seed.length_toList
  rw [ofList, dif_pos fits]
  simp only [front, back]
  have valid : key.validate = .ok () := validate_eq_ok_iff.mpr point
  change key.validate.map _ = _
  rw [valid]
  rfl

/-- The key pair of a seed of ones. -/
def ones : SecretKey :=
  ⟨.replicate 32 1, ⟨⟨[0x8a, 0x88, 0xe3, 0xdd, 0x74, 0x09, 0xf1, 0x95, 0xfd, 0x52, 0xdb, 0x2d, 0x3c,
    0xba, 0x5d, 0x72, 0xca, 0x67, 0x09, 0xbf, 0x1d, 0x94, 0x12, 0x1b, 0xf3, 0x74, 0x88, 0x01, 0xb4,
    0x0f, 0x6f, 0x5c], rfl⟩⟩⟩

/-- The key pair of a seed of twos. -/
def twos : SecretKey :=
  ⟨.replicate 32 2, ⟨⟨[0x81, 0x39, 0x77, 0x0e, 0xa8, 0x7d, 0x17, 0x5f, 0x56, 0xa3, 0x54, 0x66, 0xc3,
    0x4c, 0x7e, 0xcc, 0xcb, 0x8d, 0x8a, 0x91, 0xb4, 0xee, 0x37, 0xa2, 0x5d, 0xf6, 0x0f, 0x5b, 0x8f,
    0xc9, 0xb3, 0x94], rfl⟩⟩⟩

/-- The halves of the first key belong together. -/
theorem isPair_ones : ones.IsPair := by decide +kernel

/-- The halves of the second key belong together. -/
theorem isPair_twos : twos.IsPair := by decide +kernel

end SecretKey

/-- Two messages that look the same to those who sign. -/
structure Message.SameForSigners (first second : Message) : Prop where
  header : first.header = second.header
  signerKeys : first.signerKeys = second.signerKeys
  serialize : first.serialize = second.serialize

namespace KeyProvider

/-- A provider has a key for a signer that does not sign. -/
def Fails (provider : KeyProvider) (signer : PublicKey) : Prop :=
  ∃ secret, provider signer = some secret ∧ ¬ secret.IsPair

/-- The signature of a signer whose key is given, and otherwise what its slot holds. -/
def fill (provider : KeyProvider) (text : List UInt8) : Signature × PublicKey → Signature
  | (slot, signer) =>
    match provider signer with
    | some secret => secret.signature text
    | none => slot

end KeyProvider

namespace Transaction

variable {provider : KeyProvider} {text : List UInt8} {slots rest : List (Signature × PublicKey)}
  {transaction : Transaction} {body : List UInt8}

private theorem fillSlots_cons_of_fine {slot : Signature} {signer : PublicKey}
    (fine : ¬ provider.Fails signer) :
    fillSlots provider text ((slot, signer) :: rest) =
      (provider.fill text (slot, signer) :: (fillSlots provider text rest).1,
        (fillSlots provider text rest).2) := by
  rw [fillSlots]
  cases given : provider signer with
  | none => simp only [Option.map_none, KeyProvider.fill, given]
  | some secret =>
      have pair : secret.IsPair := by
        by_contra crossed
        exact fine ⟨secret, given, crossed⟩
      simp only [Option.map_some, KeyProvider.fill, given, SecretKey.sign_of_isPair pair]

/-- **Slots whose keys sign are filled**, whatever happens behind them. -/
theorem fillSlots_append (fine : ∀ entry ∈ slots, ¬ provider.Fails entry.2) :
    fillSlots provider text (slots ++ rest) =
      (slots.map (provider.fill text) ++ (fillSlots provider text rest).1,
        (fillSlots provider text rest).2) := by
  induction slots with
  | nil => rfl
  | cons entry slots ih =>
      obtain ⟨head, tail⟩ := List.forall_mem_cons.mp fine
      rw [List.cons_append, fillSlots_cons_of_fine head, ih tail]
      rfl

private theorem fillSlots_of_fine (fine : ∀ entry ∈ slots, ¬ provider.Fails entry.2) :
    fillSlots provider text slots = (slots.map (provider.fill text), none) := by
  have whole : fillSlots provider text (slots ++ []) = _ := fillSlots_append fine
  rwa [List.append_nil, fillSlots, List.append_nil] at whole

/-- A key that does not sign leaves its slot and all behind it as they are. -/
theorem exists_fillSlots_of_fails {slot : Signature} {signer : PublicKey}
    (fails : provider.Fails signer) :
    ∃ fault, fillSlots provider text ((slot, signer) :: rest) =
      (slot :: rest.map Prod.fst, some fault) := by
  obtain ⟨secret, given, crossed⟩ := fails
  obtain ⟨fault, failed⟩ := SecretKey.exists_fault_of_crossed crossed text
  refine ⟨fault, ?_⟩
  rw [fillSlots, given]
  simp only [Option.map_some, failed]

/-- **A transaction is ready to be signed** when its bytes can be written, its signers are
there, and there is a slot for each signer or none at all. -/
structure Ready (transaction : Transaction) (body : List UInt8) : Prop where
  written : transaction.message.serialize = .ok body
  signers : transaction.message.header.required.toNat ≤ transaction.message.keys.length
  sized : transaction.signatures = [] ∨
    transaction.signatures.length = transaction.message.header.required.toNat

/-- The slots that signing finds: those of the transaction, or one that is empty for each
signer. -/
def openSlots (transaction : Transaction) : List Signature :=
  if transaction.signatures = [] then
    List.replicate transaction.message.header.required.toNat .zero
  else transaction.signatures

/-- What signing looks at: the bytes of the message, and each slot with its signer. -/
def prepared (transaction : Transaction) :
    Except LedgerError (List UInt8 × List (Signature × PublicKey)) := do
  let message ← transaction.message.serialize
  let signers ← transaction.signerKeys
  let slots ← transaction.slots signers
  return (message, slots.zip signers)

/-- Partial signing prepares the slots and fills them until a key fails. -/
theorem partialSign_eq : partialSign provider transaction =
    match transaction.prepared with
    | .error fault => .error fault transaction
    | .ok (message, slots) =>
      match fillSlots provider message slots with
      | (signatures, some fault) => .error fault { transaction with signatures := signatures }
      | (signatures, none) => .ok () { transaction with signatures := signatures } := by
  rw [partialSign, prepared]
  generalize (transaction.message.serialize >>= _) = found
  rcases found with fault | ⟨message, slots⟩
  · rfl
  · rcases filled : fillSlots provider message slots with ⟨signatures, _ | fault⟩
    · simp only [filled]
    · simp only [filled]

/-- A message has all its signers if it has as many keys. -/
theorem length_signerKeys_eq_iff {message : Message} :
    message.signerKeys.length = message.header.required.toNat ↔
      message.header.required.toNat ≤ message.keys.length := by
  rw [Message.signerKeys, List.length_take]
  omega

/-- The signers are given for a header that the keys can meet. -/
theorem signerKeys_eq_ok_iff {signers : List PublicKey} :
    transaction.signerKeys = .ok signers ↔
      transaction.message.header.required.toNat ≤ transaction.message.keys.length ∧
        transaction.message.signerKeys = signers := by
  simp only [signerKeys, length_signerKeys_eq_iff]
  split
  case isTrue enough => simp only [Except.ok.injEq, enough, true_and]
  case isFalse few => exact iff_of_false Outcome.throw_ne_ok fun found => few found.1

private theorem slots_eq_ok_iff {signers : List PublicKey} {slots : List Signature}
    (counted : signers.length = transaction.message.header.required.toNat) :
    transaction.slots signers = .ok slots ↔
      (transaction.signatures = [] ∨
        transaction.signatures.length = transaction.message.header.required.toNat) ∧
      transaction.openSlots = slots := by
  simp only [Transaction.slots, openSlots, counted, List.length_eq_zero_iff]
  split
  case isTrue none => simp only [Except.ok.injEq, none, true_or, true_and]
  case isFalse some =>
    split
    case isTrue all => simp only [Except.ok.injEq, all, or_true, true_and]
    case isFalse other =>
      exact iff_of_false Outcome.throw_ne_ok fun found => found.1.elim some other

/-- **Signing gets as far as the slots** of a transaction that is ready. -/
theorem prepared_eq_ok_iff : transaction.prepared = .ok (body, slots) ↔
    transaction.Ready body ∧
      transaction.openSlots.zip transaction.message.signerKeys = slots := by
  simp only [prepared, Outcome.bind_eq_ok_iff, Outcome.pure_eq_ok_iff, signerKeys_eq_ok_iff,
    Prod.mk.injEq]
  constructor
  · rintro ⟨message, written, signers, ⟨enough, rfl⟩, found, sizes, rfl, rfl⟩
    obtain ⟨sized, rfl⟩ := (slots_eq_ok_iff (length_signerKeys_eq_iff.mpr enough)).mp sizes
    exact ⟨⟨written, enough, sized⟩, rfl⟩
  · rintro ⟨ready, rfl⟩
    have counted := length_signerKeys_eq_iff.mpr ready.signers
    exact ⟨body, ready.written, _, ⟨ready.signers, rfl⟩, _,
      (slots_eq_ok_iff counted).mpr ⟨ready.sized, rfl⟩, rfl, rfl⟩

/-- A transaction that is not ready is refused and left as it is. -/
theorem partialSign_of_unready (unready : ∀ body, ¬ transaction.Ready body)
    (provider : KeyProvider) :
    ∃ fault, partialSign provider transaction = .error fault transaction := by
  rw [partialSign_eq]
  cases found : transaction.prepared with
  | error fault => exact ⟨fault, rfl⟩
  | ok _ => exact (unready _ (prepared_eq_ok_iff.mp found).1).elim

/-- There is a slot for each required signature. -/
theorem length_openSlots (ready : transaction.Ready body) :
    transaction.openSlots.length = transaction.message.header.required.toNat := by
  rw [openSlots]
  split
  case isTrue none => exact List.length_replicate
  case isFalse some => exact ready.sized.resolve_left some

/-- The slots that a transaction has are the open ones. -/
theorem openSlots_of_slots (some : transaction.signatures ≠ []) :
    transaction.openSlots = transaction.signatures := if_neg some

/-- **Where every given key signs**, signing succeeds and fills the slots of those keys. -/
theorem partialSign_of_fine (ready : transaction.Ready body)
    (fine : ∀ signer ∈ transaction.message.signerKeys, ¬ provider.Fails signer) :
    partialSign provider transaction = .ok () { transaction with
      signatures := (transaction.openSlots.zip transaction.message.signerKeys).map
        (provider.fill body) } := by
  have fineSlots : ∀ entry ∈ transaction.openSlots.zip transaction.message.signerKeys,
      ¬ provider.Fails entry.2 :=
    fun entry member => fine entry.2 (List.of_mem_zip member).2
  rw [partialSign_eq, prepared_eq_ok_iff.mpr ⟨ready, rfl⟩]
  simp only [fillSlots_of_fine fineSlots]

/-- **Where a key does not sign**, the slots before it stay filled. -/
theorem partialSign_of_fails (ready : transaction.Ready body)
    {before after : List PublicKey} {signer : PublicKey}
    (split : transaction.message.signerKeys = before ++ signer :: after)
    {front behind : List Signature} {slot : Signature}
    (listed : transaction.openSlots = front ++ slot :: behind) (even : front.length = before.length)
    (fine : ∀ earlier ∈ before, ¬ provider.Fails earlier) (fails : provider.Fails signer) :
    ∃ fault, partialSign provider transaction = .error fault { transaction with
      signatures := (front.zip before).map (provider.fill body) ++ slot :: behind } := by
  have level : behind.length = after.length := by
    have counted := length_signerKeys_eq_iff.mpr ready.signers
    rw [← length_openSlots ready, split, listed] at counted
    simp only [List.length_append, List.length_cons] at counted
    omega
  have fineSlots : ∀ entry ∈ front.zip before, ¬ provider.Fails entry.2 :=
    fun entry member => fine entry.2 (List.of_mem_zip member).2
  have pairs : (front ++ slot :: behind).zip (before ++ signer :: after) =
      front.zip before ++ (slot, signer) :: behind.zip after := by
    rw [List.zip_append even, List.zip_cons_cons]
  obtain ⟨fault, stopped⟩ :
      ∃ fault, fillSlots provider body ((slot, signer) :: behind.zip after) = (_, some fault) :=
    exists_fillSlots_of_fails fails
  refine ⟨fault, ?_⟩
  rw [partialSign_eq, prepared_eq_ok_iff.mpr ⟨ready, rfl⟩, split, listed, pairs]
  simp only [fillSlots_append fineSlots, stopped, List.map_fst_zip (Nat.le_of_eq level)]

/-- A message that two keys have to sign. -/
def duet : Message :=
  .ofParts .legacy ⟨2, 0, 0⟩ [SecretKey.ones.publicKey, SecretKey.twos.publicKey] .zero [] []

/-- The bytes of the duet. -/
def duetBytes : List UInt8 :=
  [2, 0, 0, 2] ++ SecretKey.ones.publicKey.toList ++ SecretKey.twos.publicKey.toList ++
    List.replicate 32 0 ++ [0]

/-- The duet is ready for signing. -/
theorem ready_duet : (ofMessage duet).Ready duetBytes := ⟨rfl, by decide, .inl rfl⟩

end Transaction

end LedgerClient
