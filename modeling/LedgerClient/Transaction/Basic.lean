import LedgerClient.Message.Compile
import LedgerClient.Transaction.KeyProvider

/-! # Transactions

A transaction is a message and the signatures of its signers, in the order of
their keys. A slot that is all zero has not been signed. Signing goes from slot to
slot; if it fails at one of them, the slots before it keep what they were given.
-/

namespace LedgerClient

/-- A message with its signatures. -/
structure Transaction where
  signatures : List Signature
  message : Message
deriving DecidableEq

namespace Transaction

/-- A message that nobody has signed. -/
def ofMessage (message : Message) : Transaction := ⟨[], message⟩

/-- The unsigned transaction of a list of instructions. -/
def compile (instructions : List Instruction) (blockhash : Hash) (options : CompileOptions) :
    Except LedgerError Transaction :=
  (Message.compile instructions blockhash options).map ofMessage

/-- The first signature, by which a transaction is known. -/
def id? (transaction : Transaction) : Option Signature := transaction.signatures.head?

/-- Whether each signer has a slot and no slot is empty. -/
def isSigned (transaction : Transaction) : Bool :=
  transaction.signatures.length == transaction.message.header.required.toNat &&
    transaction.signatures.all fun signature => !signature.isZero

/-- The keys that sign, all of which must be there. -/
def signerKeys (transaction : Transaction) : Except LedgerError (List PublicKey) :=
  let signers := transaction.message.signerKeys
  let required := transaction.message.header.required.toNat
  let present := signers.length
  if present = required then .ok signers
  else
    .error (.invalidHeader s!"{required} required signatures but only {present} account keys")

/-- The slots to sign: one empty slot for each signer if there are none yet. -/
def slots (transaction : Transaction) (signers : List PublicKey) :
    Except LedgerError (List Signature) :=
  let expected := signers.length
  let actual := transaction.signatures.length
  if actual = 0 then .ok (List.replicate expected .zero)
  else if actual = expected then .ok transaction.signatures
  else .error (.signatureCountMismatch expected actual)

/-- Sign the slots whose key the provider has. A signature that fails ends this,
and the slots from there on stay as they are. -/
def fillSlots (provider : KeyProvider) (message : List UInt8) :
    List (Signature × PublicKey) → List Signature × Option LedgerError
  | [] => ([], none)
  | (slot, key) :: rest =>
    match (provider key).map fun secret : SecretKey => secret.sign message with
    | some (.error fault) => (slot :: rest.map Prod.fst, some fault)
    | some (.ok signature) =>
      let (others, fault) := fillSlots provider message rest
      (signature :: others, fault)
    | none =>
      let (others, fault) := fillSlots provider message rest
      (slot :: others, fault)

/-- A step that changes a transaction and may fail. What it changed before it
failed stays changed. -/
abbrev Signing := EStateM LedgerError Transaction

/-- Sign with every key that the provider has, and leave the other slots. -/
def partialSign (provider : KeyProvider) : Signing Unit := fun transaction =>
  let prepared : Except LedgerError (List UInt8 × List (Signature × PublicKey)) := do
    let message ← transaction.message.serialize
    let signers ← transaction.signerKeys
    let slots ← transaction.slots signers
    return (message, slots.zip signers)
  match prepared with
  | .error fault => .error fault transaction
  | .ok (message, slots) =>
    let (signatures, fault) := fillSlots provider message slots
    let next := { transaction with signatures }
    match fault with
    | some fault => .error fault next
    | none => .ok () next

/-- Sign as every signer. If the provider lacks a key, nothing is signed. -/
def sign (provider : KeyProvider) : Signing Unit := fun transaction =>
  match transaction.message.signerKeys.find? fun key => (provider key).isNone with
  | some missing => .error (.missingSigner missing.text) transaction
  | none => partialSign provider transaction

/-- Check the signature of every signer, in order. -/
def verify (transaction : Transaction) : Except LedgerError Unit := do
  let signers ← transaction.signerKeys
  let expected := signers.length
  let actual := transaction.signatures.length
  if actual ≠ expected then throw (.signatureCountMismatch expected actual)
  let message ← transaction.message.serialize
  (transaction.signatures.zip signers).forM fun (signature, key) => signature.verify key message

end Transaction

end LedgerClient
