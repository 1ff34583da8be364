import LedgerClient.Decimal.Shortest

/-! # Writing a decimal

A style says up to which size decimals are written out and how an exponent is
spelled where they are not.
-/

namespace LedgerClient

/-- How decimals are written. -/
structure DecimalStyle where
  /-- The point is written out from this many zeros after it on ... -/
  leastPoint : Int
  /-- ... up to this many digits in front of it. -/
  greatestPoint : Int
  /-- What stands after a whole number that is written out. -/
  wholeEnding : String
  /-- What stands before an exponent that is not negative. -/
  exponentMark : String
  /-- What stands before a negative exponent. -/
  negativeExponentMark : String

namespace DecimalStyle

/-- Digits as text. -/
def digitText (digits : List Nat) : String :=
  String.ofList (digits.map fun digit => Char.ofNat (48 + digit))

/-- The text of a positive decimal. -/
def magnitude (style : DecimalStyle) (decimal : Decimal) : String :=
  let digits := Positional.digits 10 decimal.digits
  let count := digits.length
  let point := decimal.exponent + count
  if style.leastPoint ≤ point ∧ point ≤ style.greatestPoint then
    if point ≤ 0 then
      "0." ++ digitText (List.replicate (-point).toNat 0 ++ digits)
    else if count ≤ point.toNat then
      digitText (digits ++ List.replicate (point.toNat - count) 0) ++ style.wholeEnding
    else
      digitText (digits.take point.toNat) ++ "." ++ digitText (digits.drop point.toNat)
  else
    let lead := digitText (digits.take 1)
    let fraction := if count ≤ 1 then "" else "." ++ digitText (digits.drop 1)
    let mark := if point ≤ 0 then style.negativeExponentMark else style.exponentMark
    lead ++ fraction ++ mark ++ toString (point - 1).natAbs

/-- The text of a double. -/
def render (style : DecimalStyle) (x : Binary64) : String :=
  let sign := if x.isNegative then "-" else ""
  if x.rank = 0 then sign ++ "0" ++ style.wholeEnding
  else sign ++ style.magnitude (.shortest x.rank)

end DecimalStyle

end LedgerClient
