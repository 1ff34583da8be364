import LedgerClient.Key.Json
import LedgerClient.Rpc.Call
import LedgerClient.Transaction.Wire

/-! # Submitting a transaction

A transaction is sent as Base64 text, and its first signature comes back.
-/

namespace LedgerClient

/-- How a transaction is to be taken in. -/
structure SubmissionOptions where
  skipPreflight : Bool
  preflightCommitment : Option Commitment
  maxRetries : Option UInt64
  minContextSlot : Option UInt64

namespace SubmissionOptions

/-- The members for an option that is set. -/
def members {α : Type} (name : String) (encode : α → Json) : Option α → List (String × Json)
  | some value => [(name, encode value)]
  | none => []

/-- The options as JSON, with the form in which the transaction is sent. -/
def toJson (options : SubmissionOptions) : Json :=
  let word := fun n : UInt64 => Json.ofNat n.toNat
  .ofMembers ([("encoding", .text "base64"), ("skipPreflight", .bool options.skipPreflight)] ++
    members "preflightCommitment" Commitment.toJson options.preflightCommitment ++
    members "maxRetries" word options.maxRetries ++
    members "minContextSlot" word options.minContextSlot)

end SubmissionOptions

namespace Transaction

/-- The request that submits a transaction. -/
def submission (transaction : Transaction) (options : SubmissionOptions) :
    Except LedgerError RpcRequest := do
  return ⟨"sendTransaction", [.text (← transaction.toBase64), options.toJson]⟩

/-- Submit a transaction. -/
def submit {m : Type → Type} [Monad m] [MonadExceptOf LedgerError m]
    (call : RpcRequest → m (List UInt8)) (transaction : Transaction)
    (options : SubmissionOptions) : m Signature := do
  match transaction.submission options with
  | .error fault => throw fault
  | .ok request =>
    match request.readAnswer Base58Value.shape (← call request) with
    | .error fault => throw fault
    | .ok signature => return signature

end Transaction

end LedgerClient
