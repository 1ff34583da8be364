import LedgerClient.Text.Positional

/-! # Doubles as exact numbers

A finite double is a sign and a magnitude. Magnitudes are numbered in their order,
so that the number of one is its bit pattern without the sign. Every operation is
done exactly on fractions of natural numbers and then rounded once, to the nearest
double and from a tie to the even one.
-/

namespace LedgerClient

/-- A finite double. -/
structure Binary64 where
  isNegative : Bool
  /-- The place of the magnitude among all magnitudes. -/
  rank : Nat
deriving DecidableEq

namespace Binary64

/-- Ranks between two powers of two. -/
def octave : Nat := 2 ^ 52

/-- The first rank that is not finite. -/
def rankLimit : Nat := 2047 * octave

/-- The least magnitude is one over this number. -/
def unit : Nat := 2 ^ 1074

/-- How often the spacing of magnitudes has doubled at a rank. -/
def doublings (rank : Nat) : Nat := rank / octave - 1

/-- A magnitude in multiples of the least one. -/
def units (rank : Nat) : Nat := (rank - doublings rank * octave) * 2 ^ doublings rank

/-- A quotient rounded to the nearest number, from a tie to the even one. -/
def divideToEven (numerator denominator : Nat) : Nat :=
  let low := numerator / denominator
  let twice := 2 * (numerator % denominator)
  if twice < denominator then low
  else if denominator < twice then low + 1
  else low + low % 2

/-- The rank of the magnitude nearest to a fraction, unless it is too large. -/
def rankOfRatio (numerator denominator : Nat) : Option Nat :=
  let scaled := numerator * unit
  let shift := Nat.log2 (scaled / denominator) - 52
  let rank := shift * octave + divideToEven scaled (denominator * 2 ^ shift)
  if rank < rankLimit then some rank else none

/-- The magnitude nearest to a natural number. -/
def rankOfNat (n : Nat) : Option Nat := rankOfRatio n 1

/-- The product of two magnitudes. -/
def multiplyRank (first second : Nat) : Option Nat :=
  rankOfRatio (units first * units second) (unit * unit)

/-- The quotient of two magnitudes. -/
def divideRank (first second : Nat) : Option Nat :=
  rankOfRatio (units first) (units second)

end Binary64

end LedgerClient
