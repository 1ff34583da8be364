import LedgerClient.Text.Positional

/-! # The field of integers modulo 2²⁵⁵ − 19

Coordinates of curve points are residues of this prime. A residue is *negative*
when its least representative is odd, so of two opposite residues one is negative
unless both are zero.
-/

namespace LedgerClient.Curve

/-- The prime that coordinates are counted by. -/
def fieldPrime : Nat := 2 ^ 255 - 19

instance : @NeZero Nat Zero.ofOfNat0 fieldPrime := ⟨by decide⟩

/-- A coordinate. -/
abbrev Coordinate := Fin fieldPrime

namespace Coordinate

/-- Repeated multiplication, by squaring. -/
def power (x : Coordinate) (exponent : Nat) : Coordinate :=
  if exponent = 0 then 1
  else
    let squares := power (x * x) (exponent / 2)
    if exponent % 2 = 1 then x * squares else squares
termination_by exponent
decreasing_by omega

/-- The inverse of a nonzero residue; zero stays zero. -/
def inverse (x : Coordinate) : Coordinate := power x (fieldPrime - 2)

/-- Whether the least representative is odd. -/
def isNegative (x : Coordinate) : Bool := x.val % 2 = 1

/-- A square root of minus one. -/
def rootOfMinusOne : Coordinate :=
  Fin.ofNat _ 0x2b8324804fc1df0b2b4d00993dfbd7a72f431806ad2fe478c4ee1b274a0ea0b0

/-- The square root of `u / v` that is not negative, if `u / v` is a square. The
power leaves a root of it, or of its product with a fourth root of one. -/
def rootOfRatio? (u v : Coordinate) : Option Coordinate :=
  let cubed := v * v * v
  let candidate := u * cubed * power (u * cubed * cubed * v) ((fieldPrime - 5) / 8)
  let reached := v * candidate * candidate
  let root? :=
    if reached = u then some candidate
    else if reached = -u then some (candidate * rootOfMinusOne)
    else none
  root?.map fun root => if root.isNegative then -root else root

end Coordinate

end LedgerClient.Curve
