import LedgerClient.Decimal.Notation

/-! # Durations

A duration is a whole number of nanoseconds. It is shown in the largest unit of
which it holds at least one, with the exact fraction.
-/

namespace LedgerClient

/-- A span of time. -/
structure Duration where
  nanoseconds : Nat
deriving DecidableEq

namespace Duration

/-- Nanoseconds in a second. -/
def second : Nat := 1000000000

/-- So many seconds. -/
def ofSeconds (seconds : Nat) : Duration := ⟨seconds * second⟩

/-- So many milliseconds. -/
def ofMilliseconds (milliseconds : Nat) : Duration := ⟨milliseconds * 1000000⟩

/-- The digits after the point for a number of `10 ^ width`-ths, without zeros at the
end. -/
def fractionText (width part : Nat) : String :=
  let digits := Positional.digits 10 part
  let padded := List.replicate (width - digits.length) 0 ++ digits
  DecimalStyle.digitText ((padded.reverse.dropWhile (· == 0)).reverse)

/-- A number of `10 ^ width`-ths of a unit. -/
def inUnit (total width : Nat) (unit : String) : String :=
  let whole := toString (total / 10 ^ width)
  let part := total % 10 ^ width
  if part = 0 then whole ++ unit else whole ++ "." ++ fractionText width part ++ unit

/-- The text of a duration. -/
def render (duration : Duration) : String :=
  let total := duration.nanoseconds
  if second ≤ total then inUnit total 9 "s"
  else if 1000000 ≤ total then inUnit total 6 "ms"
  else if 1000 ≤ total then inUnit total 3 "µs"
  else inUnit total 0 "ns"

end Duration

end LedgerClient
