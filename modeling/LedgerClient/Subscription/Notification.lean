import LedgerClient.Key.Json
import LedgerClient.Subscription.Error
import LedgerClient.Text.Base64

/-! # What subscriptions tell

A notification is a value with the slot at which it holds. Account data come as
text in some encoding, or as JSON that the server has made of them.
-/

namespace LedgerClient

/-- How values are read out of notifications. -/
abbrev NotificationShape (α : Type) := Json.Shape String Json.Number α

/-- A value and the slot at which it holds. -/
structure Notification (α : Type) where
  slot : UInt64
  value : α

namespace Notification

/-- The slot, which stands in an object of its own. -/
def contextShape : NotificationShape UInt64 := fun depth tree => do
  (← Json.Fields.ofTree ["slot"] depth tree).required "slot" .word

/-- A notification of values of a shape. -/
def shape {α : Type} (value : NotificationShape α) : NotificationShape (Notification α) :=
  fun depth tree => do
    let fields ← Json.Fields.ofTree ["context", "value"] depth tree
    let slot ← fields.required "context" contextShape
    return ⟨slot, ← fields.required "value" value⟩

end Notification

/-- How account data are written as text. -/
inductive AccountEncoding where
  | base58
  | base64
  /-- Compressed before it is written. -/
  | base64Zstd
  /-- Not as text but as JSON, where the server knows how. -/
  | jsonParsed
deriving DecidableEq

namespace AccountEncoding

/-- The encoding asked for without a choice. -/
def standard : AccountEncoding := base64

/-- The word for an encoding. -/
def name : AccountEncoding → String
  | base58 => "base58"
  | base64 => "base64"
  | base64Zstd => "base64+zstd"
  | jsonParsed => "jsonParsed"

/-- The form of an encoding in diagnostics. -/
def form : AccountEncoding → String
  | base58 => "Base58"
  | base64 => "Base64"
  | base64Zstd => "Base64Zstd"
  | jsonParsed => "JsonParsed"

/-- An encoding as JSON. -/
def toJson (encoding : AccountEncoding) : Json := .text encoding.name

/-- An encoding by its word. -/
def shape {τ ν : Type} [Json.Meaning τ ν] : Json.Shape τ ν AccountEncoding :=
  .choice ([base58, base64, base64Zstd, jsonParsed].map fun encoding => (encoding.name, encoding))

end AccountEncoding

/-- The data of an account as they come. -/
inductive AccountData where
  | encoded (payload : String) (encoding : AccountEncoding)
  | parsed (json : Json)

namespace AccountData

/-- A text and its encoding, or else any JSON. -/
def shape : NotificationShape AccountData := fun depth tree =>
  let pair : Except Json.Fault AccountData :=
    match depth, tree with
    | inner + 1, .array [payload, encoding] => do
      return .encoded (← Json.Shape.text inner payload) (← AccountEncoding.shape inner encoding)
    | _, _ => .error (.wrongShape "a pair")
  match pair with
  | .ok data => .ok data
  | .error _ => (Json.Tree.value depth tree).map parsed

/-- The bytes of account data, if they can be had without more knowledge. -/
def decode : AccountData → Except SubscriptionError (List UInt8)
  | encoded payload .base64 =>
    match Base64.decode (Utf8.encode payload) with
    | .ok bytes => .ok bytes
    | .error fault => .error (.decode ("account data: " ++ fault.message))
  | encoded payload .base58 =>
    match Base58.decode payload with
    | .ok bytes => .ok bytes
    | .error fault => .error (.decode ("account data: " ++ fault.message))
  | encoded _ encoding =>
    let form := encoding.form
    .error (.decode s!"account data: cannot decode {form} payload")
  | parsed _ => .error (.decode "account data: parsed json has no raw form")

end AccountData

/-- An account of the ledger. -/
structure Account where
  lamports : UInt64
  owner : PublicKey
  data : AccountData
  executable : Bool
  rentEpoch : UInt64
  space : Option UInt64

/-- An account in a notification; its size may be left out. -/
def Account.shape : NotificationShape Account := fun depth tree => do
  let fields ← Json.Fields.ofTree
    ["lamports", "owner", "data", "executable", "rentEpoch", "space"] depth tree
  let lamports ← fields.required "lamports" .word
  let owner ← fields.required "owner" Base58Value.shape
  let data ← fields.required "data" AccountData.shape
  let executable ← fields.required "executable" .bool
  let rentEpoch ← fields.required "rentEpoch" .word
  let space ← fields.withDefault "space" none (.optional .word)
  return ⟨lamports, owner, data, executable, rentEpoch, space⟩

/-- What a transaction wrote while it ran. -/
structure TransactionLogs where
  signature : Signature
  /-- Why the transaction failed, if it did. -/
  error : Option Json
  /-- Nothing if the transaction failed before it could run. -/
  lines : Option (List String)

/-- Logs in a notification; all but the signature may be left out. -/
def TransactionLogs.shape : NotificationShape TransactionLogs := fun depth tree => do
  let fields ← Json.Fields.ofTree ["signature", "err", "logs"] depth tree
  let signature ← fields.required "signature" Base58Value.shape
  let error ← fields.withDefault "err" none (.optional .value)
  return ⟨signature, error, ← fields.withDefault "logs" none (.optional (.list .text))⟩

/-- Which transactions a subscription to logs covers. -/
inductive LogsFilter where
  /-- All but simple votes. -/
  | all
  | allWithVotes
  /-- Those that mention one of these keys. -/
  | mentions (keys : List PublicKey)
deriving DecidableEq

/-- A filter as JSON. -/
def LogsFilter.toJson : LogsFilter → Json
  | all => .text "all"
  | allWithVotes => .text "allWithVotes"
  | mentions keys => .ofMembers [("mentions", .array (keys.map Base58Value.toJson))]

end LedgerClient
