import LedgerClient.Key.Json
import LedgerClient.Rpc.Call

/-! # Asking for a recent blockhash

A new message needs one, and is accepted up to a height of the ledger.
-/

namespace LedgerClient

/-- A blockhash and the last height at which it is accepted. -/
structure LatestBlockhash where
  blockhash : Hash
  lastValidHeight : UInt64
deriving DecidableEq

namespace LatestBlockhash

/-- The request for a blockhash. -/
def request (commitment : Option Commitment) : RpcRequest where
  method := "getLatestBlockhash"
  params :=
    match commitment with
    | some commitment => [.ofMembers [("commitment", commitment.toJson)]]
    | none => []

variable {τ ν : Type} [Json.Meaning τ ν]

/-- A blockhash and its height. -/
def shape : Json.Shape τ ν LatestBlockhash := fun depth tree => do
  let fields ← Json.Fields.ofTree ["blockhash", "lastValidBlockHeight"] depth tree
  let blockhash ← fields.required "blockhash" Base58Value.shape
  return ⟨blockhash, ← fields.required "lastValidBlockHeight" .word⟩

/-- The answer, which holds the blockhash as its value. -/
def answerShape : Json.Shape τ ν LatestBlockhash := fun depth tree => do
  (← Json.Fields.ofTree ["value"] depth tree).required "value" shape

/-- Ask for a blockhash. -/
def fetch {m : Type → Type} [Monad m] [MonadExceptOf LedgerError m]
    (call : RpcRequest → m (List UInt8)) (commitment : Option Commitment) : m LatestBlockhash := do
  let question := request commitment
  match question.readAnswer answerShape (← call question) with
  | .ok found => return found
  | .error fault => throw fault

end LatestBlockhash

end LedgerClient
