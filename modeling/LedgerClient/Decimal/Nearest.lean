import LedgerClient.Decimal.Shortest

/-! # The double nearest to a decimal

A decimal with a huge exponent is not multiplied out: its size shows already that
it is too large for a double, or too small to differ from zero.
-/

namespace LedgerClient.Decimal

/-- Every decimal with more digits than this before its point is too large. -/
def greatestSize : Int := 310

/-- Every decimal with more zeros than this after its point rounds to zero. -/
def leastSize : Int := -330

/-- The rank of the magnitude nearest to a decimal, unless it is too large. -/
def nearestRank (decimal : Decimal) : Option Nat :=
  let size := decimal.exponent + digitCount decimal.digits
  if decimal.digits = 0 ∨ size < leastSize then some 0
  else if greatestSize < size then none
  else
    let (numerator, denominator) := decimal.ratio
    Binary64.rankOfRatio numerator denominator

end LedgerClient.Decimal
