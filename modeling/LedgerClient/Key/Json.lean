import LedgerClient.Json.Shape
import LedgerClient.Key.Value

/-! # Keys, hashes and signatures in JSON

A value stands in JSON as its Base58 text.
-/

namespace LedgerClient.Base58Value

variable {kind : ValueKind}

/-- A value as JSON. -/
def toJson (value : Base58Value kind) : Json := .text value.text

/-- A text that spells a value. -/
def shape {τ ν : Type} [Json.Meaning τ ν] : Json.Shape τ ν (Base58Value kind) := fun depth tree =>
  match Json.Shape.text depth tree with
  | .ok text =>
    match parse text with
    | .ok value => .ok value
    | .error fault => .error (.wrongShape ("a value, " ++ fault.message))
  | .error fault => .error fault

end LedgerClient.Base58Value
