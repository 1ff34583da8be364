import LedgerClient.Error.Basic
import LedgerClient.Json.Printer
import LedgerClient.Json.Shape

/-! # Calls to a node

How a request reaches a node and how the answer comes back is the caller's
business: here a request is a value, and an answer is the bytes of its result.
-/

namespace LedgerClient

/-- A method and its parameters. -/
structure RpcRequest where
  method : String
  params : List Json

namespace RpcRequest

/-- Read the answer to a request. What cannot be read is an error of the call. -/
def readAnswer {α : Type} (request : RpcRequest)
    (shape : Json.Shape Json.RawText Json.Literal α) (bytes : List UInt8) :
    Except LedgerError α :=
  match Json.parseWith shape bytes with
  | .ok value => .ok value
  | .error fault => .error (.rpc (request.method ++ ": " ++ fault.message))

end RpcRequest

/-- How settled the state is that a request observes. -/
inductive Commitment where
  | processed
  | confirmed
  | finalized
deriving DecidableEq

namespace Commitment

/-- The word for a commitment. -/
def name : Commitment → String
  | processed => "processed"
  | confirmed => "confirmed"
  | finalized => "finalized"

/-- A commitment as JSON. -/
def toJson (commitment : Commitment) : Json := .text commitment.name

/-- A commitment by its word. -/
def shape {τ ν : Type} [Json.Meaning τ ν] : Json.Shape τ ν Commitment :=
  .choice ([processed, confirmed, finalized].map fun commitment => (commitment.name, commitment))

end Commitment

end LedgerClient
