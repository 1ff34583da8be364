/-! # Blanks

The characters that only keep words apart, in any script.
-/

namespace LedgerClient

/-- Code points of blanks beyond ASCII. -/
def wideBlanks : List Nat :=
  [0x85, 0xa0, 0x1680, 0x2028, 0x2029, 0x202f, 0x205f, 0x3000]

/-- Whether a character is a blank. -/
def isBlank (c : Char) : Bool :=
  c == ' ' || (9 ≤ c.toNat && c.toNat ≤ 13) || (0x2000 ≤ c.toNat && c.toNat ≤ 0x200a) ||
    wideBlanks.contains c.toNat

/-- Characters without those at either end that are passed over. -/
def stripEnds (isSkipped : Char → Bool) (cs : List Char) : List Char :=
  ((cs.dropWhile isSkipped).reverse.dropWhile isSkipped).reverse

end LedgerClient
