import LedgerClient.Text.Positional

/-! # Numbers in texts

Digits go up to `f`, in either case. A number has a digit at least.
-/

namespace LedgerClient.Numeral

/-- The number of a digit of some base up to sixteen. -/
def digit? (c : Char) : Option Nat :=
  if c.isDigit then some (c.toNat - 48)
  else if 'a' ≤ c ∧ c ≤ 'f' then some (c.toNat - 87)
  else if 'A' ≤ c ∧ c ≤ 'F' then some (c.toNat - 55)
  else none

/-- The number of a digit of a base. -/
def digitBelow? (base : Nat) (c : Char) : Option Nat := (digit? c).filter (· < base)

/-- The number that digits of a base spell. -/
def parse? (base : Nat) (digits : List Char) : Option Nat :=
  if digits.isEmpty then none
  else (digits.mapM (digitBelow? base)).map (Positional.value base)

/-- The number that decimal digits spell, which a plus may precede. -/
def parseUnsigned? : List Char → Option Nat
  | '+' :: digits => parse? 10 digits
  | digits => parse? 10 digits

/-- What follows a sign in front. -/
def unsigned : List Char → List Char
  | '+' :: rest => rest
  | '-' :: rest => rest
  | cs => cs

/-- Whether characters are nothing, or an exponent with its mark. -/
def isExponent : List Char → Bool
  | [] => true
  | mark :: rest =>
    let digits := unsigned rest
    (mark == 'e' || mark == 'E') && !digits.isEmpty && digits.all Char.isDigit

/-- Whether characters spell a number with or without a fraction and an exponent, or
name what is infinite or no number. -/
def isReal (cs : List Char) : Bool :=
  let body := unsigned cs
  let whole := body.takeWhile Char.isDigit
  let isDecimal :=
    match body.dropWhile Char.isDigit with
    | '.' :: rest =>
      !(whole ++ rest.takeWhile Char.isDigit).isEmpty && isExponent (rest.dropWhile Char.isDigit)
    | rest => !whole.isEmpty && isExponent rest
  isDecimal || ["inf", "infinity", "nan"].contains (String.ofList (body.map Char.toLower))

end LedgerClient.Numeral
