import LedgerClient.Text.Positional
import LedgerClient.Text.Quoted

/-! # Base58 text

A byte string is written as one number in base 58, most significant digit
first, after one `1` for each zero byte it begins with. Characters that look
alike are left out of the alphabet.
-/

namespace LedgerClient.Base58

/-- The digits, in order of their value. -/
def alphabet : List Char := "123456789ABCDEFGHJKLMNPQRSTUVWXYZabcdefghijkmnopqrstuvwxyz".toList

/-- Why a text is not Base58. -/
inductive Fault where
  | nonAscii (index : Nat)
  | invalidCharacter (c : Char) (index : Nat)
deriving DecidableEq

/-- The wording of a fault. -/
def Fault.message : Fault → String
  | .nonAscii index => s!"provided string contained non-ascii character starting at byte {index}"
  | .invalidCharacter c index =>
    let shown := Quoted.char c
    s!"provided string contained invalid character {shown} at byte {index}"

/-- The character of a digit. -/
def ofDigit (digit : Nat) : Char := alphabet.getD digit '1'

/-- The digits of a text, or its first character that is none. All characters
before that one take one byte, so its place counts bytes as well. -/
def digitsFrom (index : Nat) (found : List Nat) : List Char → Except Fault (List Nat)
  | [] => .ok found.reverse
  | c :: rest =>
    if 128 ≤ c.toNat then .error (.nonAscii index)
    else
      match alphabet.idxOf? c with
      | some digit => digitsFrom (index + 1) (digit :: found) rest
      | none => .error (.invalidCharacter c index)

/-- A big-endian number in one base, written in another; zeros in front are kept
one for one. -/
def rebase (source target : Nat) (ds : List Nat) : List Nat :=
  ds.takeWhile (· == 0) ++ Positional.digits target (Positional.value source ds)

/-- The text of a byte string. -/
def encode (bytes : List UInt8) : String :=
  String.ofList ((rebase 256 58 (bytes.map UInt8.toNat)).map ofDigit)

/-- The byte string of a text. -/
def decode (text : String) : Except Fault (List UInt8) := do
  let ds ← digitsFrom 0 [] text.toList
  return (rebase 58 256 ds).map UInt8.ofNat

end LedgerClient.Base58
