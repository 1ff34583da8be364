import LedgerClient.Decimal.Binary64
import LedgerClient.Text.Positional

/-! # The shortest decimal that reads back

Among the decimals that round to a double, the ones with the fewest digits are
looked at, and of these the nearest to the double is taken.
-/

namespace LedgerClient

/-- A positive decimal: `digits` as a number, times ten to the power of
`exponent`. -/
structure Decimal where
  digits : Nat
  exponent : Int
deriving DecidableEq

namespace Decimal

/-- A decimal as a numerator and a denominator. -/
def ratio (decimal : Decimal) : Nat × Nat :=
  match decimal.exponent with
  | .ofNat up => (decimal.digits * 10 ^ up, 1)
  | .negSucc down => (decimal.digits, 10 ^ (down + 1))

/-- Whether a decimal rounds to the magnitude of a rank. -/
def readsAs (decimal : Decimal) (rank : Nat) : Bool :=
  let (numerator, denominator) := decimal.ratio
  Binary64.rankOfRatio numerator denominator == some rank

/-- How many decimal digits a number has; zero has none. -/
def digitCount (n : Nat) : Nat := (Positional.digits 10 n).length

/-- The least power of ten above a positive fraction. -/
def ceilingExponent (numerator denominator : Nat) : Int :=
  if denominator ≤ numerator then digitCount (numerator / denominator)
  else 1 - (digitCount ((denominator - 1) / numerator) : Int)

/-- Move factors of ten from the digits into the exponent, at most `steps` of
them. -/
def strip : Nat → Decimal → Decimal
  | 0, decimal => decimal
  | steps + 1, decimal =>
    if decimal.digits % 10 = 0 then strip steps ⟨decimal.digits / 10, decimal.exponent + 1⟩
    else decimal

/-- The decimal nearest to a fraction among the two neighbours of `count` digits
that read back, if one does. -/
def nearestOf (rank numerator denominator count : Nat) : Option Decimal :=
  let exponent := ceilingExponent numerator denominator - count
  let (scaled, divisor) : Nat × Nat :=
    match exponent with
    | .ofNat up => (numerator, denominator * 10 ^ up)
    | .negSucc down => (numerator * 10 ^ (down + 1), denominator)
  let low : Decimal := ⟨scaled / divisor, exponent⟩
  let high : Decimal := ⟨scaled / divisor + 1, exponent⟩
  match low.readsAs rank, high.readsAs rank with
  | true, true =>
    if Binary64.divideToEven scaled divisor = low.digits then some low else some high
  | true, false => some low
  | false, true => some high
  | false, false => none

/-- The most digits that are needed to tell doubles apart. -/
def maxDigits : Nat := 17

/-- The shortest decimal for the magnitude of a positive rank. -/
def shortest (rank : Nat) : Decimal :=
  let counts := (List.range maxDigits).map (· + 1)
  match counts.findSome? (nearestOf rank (Binary64.units rank) Binary64.unit) with
  | some decimal => strip maxDigits decimal
  | none => ⟨0, 0⟩

end Decimal

end LedgerClient
