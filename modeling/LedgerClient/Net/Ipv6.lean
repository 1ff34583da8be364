import LedgerClient.Text.Numeral

/-! # Addresses of eight words

An address is eight words in hexadecimal with colons between them. Two colons stand
for as many words of zero as are missing, once. The last two words may be given
as four decimal bytes.
-/

namespace LedgerClient.Ipv6

/-- A word of up to four digits. -/
def word? (cs : List Char) : Option UInt16 :=
  if 4 < cs.length then none else (Numeral.parse? 16 cs).map UInt16.ofNat

/-- A byte in decimal, with no zero in front. -/
def byte? (cs : List Char) : Option Nat :=
  if cs.head? == some '0' && 1 < cs.length then none
  else (Numeral.parse? 10 cs).filter (· < 256)

/-- Two words given as four bytes. -/
def bytes? (part : String) : Option (List UInt16) := do
  match ← (part.splitOn ".").mapM fun byte => byte? byte.toList with
  | [a, b, c, d] => return [UInt16.ofNat (256 * a + b), UInt16.ofNat (256 * c + d)]
  | _ => none

/-- The words of some parts, of which the last may give two. -/
def words? : List String → Option (List UInt16)
  | [] => some []
  | [last] => if last.contains '.' then bytes? last else (word? last.toList).map ([·])
  | part :: rest => do return (← word? part.toList) :: (← words? rest)

/-- The words on one side of two colons, where there may be none. -/
def side? (text : String) : Option (List UInt16) :=
  if text.isEmpty then some [] else words? (text.splitOn ":")

/-- The eight words that a text spells. -/
def parse? (text : String) : Option (List UInt16) := do
  match text.splitOn "::" with
  | [whole] =>
    let words ← words? (whole.splitOn ":")
    if words.length = 8 then return words else none
  | left :: rest =>
    if left.contains '.' then none
    let before ← side? left
    let after ← side? ("::".intercalate rest)
    let missing := 8 - (before.length + after.length)
    if missing = 0 then none else return before ++ List.replicate missing 0 ++ after
  | [] => none

end LedgerClient.Ipv6
