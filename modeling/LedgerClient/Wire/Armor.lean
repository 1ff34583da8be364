import LedgerClient.Error.Basic
import LedgerClient.Text.Base64
import LedgerClient.Text.Utf8

/-! # Wire forms as text

Messages and transactions are handed around as the Base64 text of their bytes.
-/

namespace LedgerClient.Armor

/-- The text of a byte list. -/
def encode (bytes : List UInt8) : String :=
  String.ofList ((Base64.encode bytes).map Char.ofUInt8)

/-- The byte list of a text. -/
def decode (text : String) : Except LedgerError (List UInt8) :=
  match Base64.decode (Utf8.encode text) with
  | .ok bytes => .ok bytes
  | .error fault => .error (.invalidBase64 fault.message)

end LedgerClient.Armor
