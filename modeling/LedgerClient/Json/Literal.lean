import LedgerClient.Json.Tree
import LedgerClient.Text.Positional

/-! # Number literals

A literal without fraction and exponent is an integer as long as it fits 64 bits;
every other one is a double. A double is read in three steps, each of which
rounds: as many digits as fit 64 bits, a power of ten, and their product or
quotient.
-/

namespace LedgerClient.Json

/-- A number as it is spelled. -/
structure Literal where
  isNegative : Bool
  whole : List Nat
  /-- Empty if there is no point. -/
  fraction : List Nat
  /-- The sign and the digits of the exponent. -/
  exponent : Option (Bool × List Nat)
deriving DecidableEq

namespace Literal

/-- The digits at the front of a byte list, after digits already found in reverse,
and the bytes after them. -/
def digitsFrom (found : List Nat) : List UInt8 → List Nat × List UInt8
  | [] => (found.reverse, [])
  | byte :: rest =>
    if 48 ≤ byte ∧ byte ≤ 57 then digitsFrom ((byte.toNat - 48) :: found) rest
    else (found.reverse, byte :: rest)

/-- A minus sign in front. -/
def splitSign : List UInt8 → Bool × List UInt8
  | 45 :: rest => (true, rest)
  | bytes => (false, bytes)

/-- The digits before the point: a zero alone, or digits that do not begin with
one. -/
def splitWhole (bytes : List UInt8) : Option (List Nat × List UInt8) :=
  match digitsFrom [] bytes with
  | ([], _) => none
  | (0 :: _ :: _, _) => none
  | found => some found

/-- The digits after a point, of which there is at least one. -/
def splitFraction : List UInt8 → Option (List Nat × List UInt8)
  | 46 :: rest =>
    match digitsFrom [] rest with
    | ([], _) => none
    | found => some found
  | bytes => some ([], bytes)

/-- The sign and the digits of an exponent, of which there is at least one; nothing
follows them. -/
def splitExponent : List UInt8 → Option (Option (Bool × List Nat))
  | [] => some none
  | mark :: rest =>
    if mark = 101 ∨ mark = 69 then
      let (isNegative, digits) : Bool × List UInt8 :=
        match rest with
        | 45 :: digits => (true, digits)
        | 43 :: digits => (false, digits)
        | digits => (false, digits)
      match digitsFrom [] digits with
      | (digit :: digits, []) => some (some (isNegative, digit :: digits))
      | _ => none
    else none

/-- The literal that a byte list spells. -/
def ofBytes? (bytes : List UInt8) : Option Literal := do
  let (isNegative, unsigned) := splitSign bytes
  let (whole, afterWhole) ← splitWhole unsigned
  let (fraction, afterFraction) ← splitFraction afterWhole
  let exponent ← splitExponent afterFraction
  return ⟨isNegative, whole, fraction, exponent⟩

/-- The first number that does not fit 64 bits. -/
def wordLimit : Nat := 2 ^ 64

/-- The largest exponent that is taken at its value. -/
def exponentLimit : Nat := 2 ^ 31 - 1

/-- The largest power of ten below infinity has this exponent. -/
def maxPower : Nat := 308

/-- Append digits to a number while it fits 64 bits. Gives the number, how many
digits were appended, and how many were left. -/
def absorb (total taken : Nat) : List Nat → Nat × Nat × Nat
  | [] => (total, taken, 0)
  | digit :: rest =>
    if total * 10 + digit < wordLimit then absorb (total * 10 + digit) (taken + 1) rest
    else (total, taken, rest.length + 1)

/-- Divide a magnitude by ten to the power of `count`, by the largest power of ten
again and again while it is needed. -/
def divideByPower (rank count : Nat) : Option Nat :=
  if rank = 0 then some 0
  else if count ≤ maxPower then do
    Binary64.divideRank rank (← Binary64.rankOfNat (10 ^ count))
  else do
    let next ← Binary64.divideRank rank (← Binary64.rankOfNat (10 ^ maxPower))
    divideByPower next (count - maxPower)
termination_by count
decreasing_by
  simp only [maxPower] at *
  omega

/-- The magnitude of a number times a power of ten. -/
def scale (significand : Nat) (power : Int) : Option Nat := do
  let rank ← Binary64.rankOfNat significand
  match power with
  | .ofNat up =>
    if rank = 0 then return 0
    else if up ≤ maxPower then Binary64.multiplyRank rank (← Binary64.rankOfNat (10 ^ up))
    else none
  | .negSucc down => divideByPower rank (down + 1)

/-- The magnitude of a literal that is read as a double. -/
def rank? (literal : Literal) : Option Nat :=
  let (high, _, dropped) := absorb 0 0 literal.whole
  let (significand, appended, _) := absorb high 0 literal.fraction
  let power : Int := (dropped : Int) - appended
  match literal.exponent with
  | none => scale significand power
  | some (isNegative, digits) =>
    let exponent := Positional.value 10 digits
    if exponentLimit < exponent then
      if isNegative || significand == 0 then some 0 else none
    else if isNegative then scale significand (power - exponent)
    else scale significand (power + exponent)

/-- The integer of a literal that is read as one. Minus zero is not. -/
def integer? (literal : Literal) : Option Int :=
  if literal.fraction = [] ∧ literal.exponent = none then
    let n := Positional.value 10 literal.whole
    if literal.isNegative then
      if 1 ≤ n ∧ n ≤ 2 ^ 63 then some (-(n : Int)) else none
    else if n < wordLimit then some n
    else none
  else none

/-- The number that a literal stands for. -/
def number (literal : Literal) : Except Fault Number :=
  match literal.integer? with
  | some n => .ok (.integer n)
  | none =>
    match literal.rank? with
    | some rank => .ok (.double ⟨literal.isNegative, rank⟩)
    | none => .error .numberOutOfRange

end Literal

end LedgerClient.Json
