import LedgerClient.Text.Numeral

/-! # Addresses of four bytes

An address is up to four numbers with points between them, of which the last fills
the bytes that are left. A number may be octal or hexadecimal.
-/

namespace LedgerClient.Ipv4

/-- The number that a part spells: hexadecimal after `0x`, octal after another zero. -/
def number? : List Char → Option Nat
  | [] => none
  | ['0'] => some 0
  | '0' :: c :: digits =>
    if c = 'x' ∨ c = 'X' then if digits.isEmpty then some 0 else Numeral.parse? 16 digits
    else Numeral.parse? 8 (c :: digits)
  | digits => Numeral.parse? 10 digits

/-- The parts of a host between its points; a point at the end is passed over. -/
def parts (host : String) : List (List Char) :=
  let found := (host.splitOn ".").map String.toList
  if 1 < found.length && found.getLast? == some [] then found.dropLast else found

/-- Whether a host can only be an address: its last part is a number, or is made of
digits. -/
def isMeant (host : String) : Bool :=
  match (parts host).getLast? with
  | none | some [] => false
  | some last => last.all Char.isDigit || (number? last).isSome

/-- The address of some numbers, of which the last fills the bytes that are left. -/
def ofNumbers? (numbers : List Nat) : Option UInt32 :=
  match numbers.getLast? with
  | none => none
  | some last =>
    let high := numbers.dropLast
    let low := 256 ^ (4 - high.length)
    if 4 < numbers.length ∨ low ≤ last ∨ high.any (255 < ·) then none
    else some (UInt32.ofNat (Positional.value 256 high * low + last))

/-- The address that a host spells. -/
def parse? (host : String) : Option UInt32 := do
  ofNumbers? (← (parts host).mapM number?)

end LedgerClient.Ipv4
